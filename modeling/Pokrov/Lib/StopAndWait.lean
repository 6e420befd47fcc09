import Mathlib.Data.List.Chain

/-!
# Stop and wait

A sender that holds one message until it is acknowledged, and sends no other before. What
has been sent, and how it was answered, says that no message is lost, changed or overtaken.
-/

namespace StopAndWait

variable {β : Type}

/-- The messages in the order in which they were held, what was sent and whether it was
acknowledged, and the message that is held. -/
structure Line (β : Type) where
  messages : List β
  sent : List (β × Bool)
  held : Option β

namespace Line

def empty : Line β := ⟨[], [], none⟩

def hold (line : Line β) (message : β) : Line β :=
  { line with messages := line.messages ++ [message], held := some message }

/-- The held message was sent, and this is how it was answered. -/
def answer (line : Line β) (message : β) (acknowledged : Bool) : Line β :=
  { line with
    sent := line.sent ++ [(message, acknowledged)]
    held := if acknowledged then none else some message }

/-- The messages that were acknowledged. -/
def delivered (line : Line β) : List β := (line.sent.filter (·.2)).map (·.1)

/-- Every message is delivered once and in its turn, and one that was not acknowledged is
the next that is sent. -/
structure InOrder (line : Line β) : Prop where
  delivered_held : line.delivered ++ line.held.toList = line.messages
  retransmitted : line.sent.IsChain fun x y => x.2 = false → y.1 = x.1
  last_held : ∀ x ∈ line.sent.getLast?, x.2 = false → line.held = some x.1

theorem inOrder_empty : (empty : Line β).InOrder := by
  constructor <;> simp [empty, delivered]

theorem InOrder.hold {line : Line β} (h : line.InOrder) (hfree : line.held = none) (message : β) :
    (line.hold message).InOrder := by
  have hdelivered := h.delivered_held
  rw [hfree] at hdelivered
  constructor
  · simpa [Line.hold, delivered] using hdelivered
  · exact h.retransmitted
  · intro x hx hfailed
    have hheld := h.last_held x hx hfailed
    rw [hfree] at hheld
    cases hheld

theorem InOrder.answer {line : Line β} (h : line.InOrder) {message : β}
    (hheld : line.held = some message) (acknowledged : Bool) :
    (line.answer message acknowledged).InOrder := by
  have hdelivered := h.delivered_held
  rw [hheld] at hdelivered
  constructor
  · cases acknowledged <;>
      simpa [Line.answer, delivered, List.filter_append] using hdelivered
  · refine List.IsChain.append h.retransmitted (List.isChain_singleton _) ?_
    intro x hx y hy hfailed
    have hlast := h.last_held x hx hfailed
    rw [hheld] at hlast
    cases hlast
    simp only [List.head?_cons, Option.mem_def, Option.some.injEq] at hy
    rw [← hy]
  · intro x hx hfailed
    simp only [Line.answer, List.getLast?_append, List.getLast?_singleton, Option.some_or,
      Option.mem_def, Option.some.injEq] at hx
    subst hx
    simp only at hfailed
    simp [Line.answer, hfailed]

end Line

end StopAndWait
