import Pokrov.AppShell.OfflineInvitation
import Pokrov.Lib.Histories

/-!
# What becomes of an invitation

A record is written back as it was read, whatever was written meanwhile. Where each write-back
meets a record that is still the one that was read, what is stored is what the last request, the
packet that was accepted for it and a cancellation come to. `Account` is that.
-/

namespace Pokrov.AppShell.Invitations

open Dart Histories Results Runs

/-! ## What the operations write -/

/-- Apart from some keys two records have the same values. -/
def AgreeOff (removed : List String) (value other : Fields) : Prop :=
  ∀ key : Text, key ∉ removed.map text → value.lookup key = other.lookup key

def acceptedKeys : List String :=
  ["accepted_packet", "accepted_account_id", "accepted_session_digest"]

def requestKeys : List String :=
  ["request", "request_digest", "proof_private_key", "delivery_private_key"]

variable {r : OfflineInvitationReceiver}

theorem AgreeOff.get {removed : List String} {value other : Fields}
    (h : AgreeOff removed value other) {key : String} (hkey : text key ∉ removed.map text) :
    value.get key = other.get key :=
  Bootstrap.get_eq_of_lookup (h (text key) hkey)

/-- A key that may differ is set. -/
theorem AgreeOff.setField {removed : List String} {value other : Fields}
    (h : AgreeOff removed value other) (key : String) (hkey : key ∈ removed) (new : Document) :
    AgreeOff removed (Bootstrap.setField value key new) other := by
  intro name hname
  have hne : name ≠ text key := fun heq => hname (heq ▸ List.mem_map_of_mem hkey)
  rw [Bootstrap.setField, Bootstrap.lookup_setField, if_neg hne]
  exact h name hname

theorem AgreeOff.refl (removed : List String) (value : Fields) : AgreeOff removed value value :=
  fun _ _ => rfl

/-- A check that was passed before the rest. -/
theorem of_check {α : Type} {refused : Prop} [Decidable refused] {failed : Tried Unit} {thrown : Thrown}
    {rest : Unit → Tried α} {a : α} (hfailed : failed = .error thrown)
    (h : (if refused then failed >>= rest else rest ()) = .ok a) : ¬ refused ∧ rest () = .ok a := by
  by_cases hrefused : refused
  · rw [if_pos hrefused, hfailed] at h
    cases h
  · rw [if_neg hrefused] at h
    exact ⟨hrefused, h⟩

variable {invitation : VerifiedOfflineInvitation} {packet : Text} {history : List InvitationNote}

theorem OfflineInvitationReceiver.verify_not_cancelled {envelope record : Fields} {now : Int}
    (h : r.verify envelope record now = .ok invitation) :
    isTrue (record.get "cancelled") = false := by
  unfold verify at h
  obtain ⟨signed, -, h⟩ := bind_eq_ok.mp h
  obtain ⟨⟨issued, expires⟩, -, h⟩ := bind_eq_ok.mp h
  obtain ⟨envelope, -, h⟩ := bind_eq_ok.mp h
  obtain ⟨request, -, h⟩ := bind_eq_ok.mp h
  obtain ⟨hcancelled, -⟩ := of_check rfl h
  simpa using hcancelled

theorem OfflineInvitationReceiver.parsePacket_ok {parsed : Fields}
    (h : parsePacket packet = .ok parsed) :
    jsonDecode packet = some (.map parsed) ∧ canonicalJson (.map parsed) = .ok packet := by
  unfold parsePacket at h
  obtain ⟨fields, hfields, h⟩ := bind_eq_ok.mp h
  obtain ⟨canonical, hcanonical, h⟩ := bind_eq_ok.mp h
  obtain ⟨heq, h⟩ := of_check rfl h
  obtain rfl := Except.ok.inj h
  rw [ne_eq, not_not] at heq
  subst heq
  refine ⟨?_, hcanonical⟩
  unfold decodeObject at hfields
  split at hfields
  · cases hfields
  · next value hvalue =>
    rw [hvalue]
    unfold object at hfields
    split at hfields
    · rw [Except.ok.inj hfields]
    · cases hfields

theorem OfflineInvitationReceiver.checkAccepted_ok {value parsed : Fields}
    (h : checkAccepted value parsed = .ok ()) (hpacket : canonicalJson (.map parsed) = .ok packet) :
    (value.get "accepted_packet").isNull = true ∨
      canonicalJson (value.get "accepted_packet") = .ok packet := by
  unfold checkAccepted at h
  by_cases hnull : (value.get "accepted_packet").isNull = true
  · exact .inl hnull
  · right
    simp only [hnull] at h
    obtain ⟨accepted, haccepted, h⟩ := bind_eq_ok.mp h
    obtain ⟨canonical, hcanonical, h⟩ := bind_eq_ok.mp h
    obtain rfl := Except.ok.inj (hcanonical.symm.trans hpacket)
    by_cases heq : accepted = canonical
    · rwa [← heq]
    · rw [if_pos heq] at h
      cases h

theorem OfflineInvitationReceiver.acceptPacket_ok {value parsed written : Fields}
    (h : r.acceptPacket value parsed invitation = .ok written) :
    AgreeOff acceptedKeys written value ∧ written.get "accepted_packet" = .map parsed := by
  unfold acceptPacket at h
  obtain ⟨recipient, -, h⟩ := bind_eq_ok.mp h
  obtain ⟨session, -, h⟩ := bind_eq_ok.mp h
  obtain ⟨accessToken, -, h⟩ := bind_eq_ok.mp h
  obtain rfl := Except.ok.inj h
  constructor
  · have hfirst := (AgreeOff.refl acceptedKeys value).setField "accepted_packet"
      (by decide) (.map parsed)
    exact (hfirst.setField _ (by decide) _).setField _ (by decide) _
  · rw [Bootstrap.get_setField_of_ne (by decide), Bootstrap.get_setField_of_ne (by decide),
      Bootstrap.get_setField_self]

/-- What an import has checked when it comes to its write. -/
structure Imported (r : OfflineInvitationReceiver) (packet : Text) (value written : Fields)
    (invitation : VerifiedOfflineInvitation) : Prop where
  verified : ∃ parsed now, jsonDecode packet = some (.map parsed) ∧
    r.verify parsed value now = .ok invitation
  live : isTrue (value.get "cancelled") = false
  unused : (value.get "accepted_packet").isNull = true ∨
    canonicalJson (value.get "accepted_packet") = .ok packet
  agrees : AgreeOff acceptedKeys written value
  accepted : (written.get "accepted_packet").isNull = false ∧
    canonicalJson (written.get "accepted_packet") = .ok packet

theorem OfflineInvitationReceiver.importPacket_ok {value written : Fields} {answers : ImportAnswers}
    (h : r.importPacket packet value answers = .ok (written, invitation)) :
    Imported r packet value written invitation := by
  unfold importPacket at h
  obtain ⟨parsed, hparsed, h⟩ := bind_eq_ok.mp h
  obtain ⟨verified, hverified, h⟩ := bind_eq_ok.mp h
  obtain ⟨-, h⟩ := of_check rfl h
  obtain ⟨⟨⟩, haccepted, h⟩ := bind_eq_ok.mp h
  obtain ⟨-, h⟩ := of_check rfl h
  obtain ⟨-, h⟩ := of_check rfl h
  obtain ⟨result, hresult, h⟩ := bind_eq_ok.mp h
  obtain ⟨canonical, -, h⟩ := bind_eq_ok.mp h
  obtain ⟨rfl, rfl⟩ := Prod.mk.inj (Except.ok.inj h)
  obtain ⟨hdecoded, hpacket⟩ := parsePacket_ok hparsed
  obtain ⟨hagrees, hfield⟩ := acceptPacket_ok hresult
  exact {
    verified := ⟨parsed, answers.now, hdecoded, hverified⟩
    live := verify_not_cancelled hverified
    unused := checkAccepted_ok haccepted hpacket
    agrees := hagrees
    accepted := by rw [hfield]; exact ⟨rfl, hpacket⟩ }

theorem OfflineInvitationReceiver.cancelRecord_ok {value written : Fields}
    (h : cancelRecord value = .ok written) :
    AgreeOff ["cancelled"] written value ∧ isTrue (written.get "cancelled") = true := by
  unfold cancelRecord at h
  obtain ⟨canonical, -, h⟩ := bind_eq_ok.mp h
  obtain rfl := Except.ok.inj h
  constructor
  · exact (AgreeOff.refl _ value).setField _ (List.mem_singleton.mpr rfl) _
  · rw [Bootstrap.get_setField_self]
    rfl

/-- A record that was not used. -/
def Unused (record : Fields) : Prop :=
  (record.get "accepted_packet").isNull = true ∧ isTrue (record.get "cancelled") = false

theorem OfflineInvitationReceiver.requestRecord_ok {arguments : RequestArguments} {record : Fields}
    (h : r.requestRecord arguments = .ok record) : Unused record := by
  unfold requestRecord at h
  obtain ⟨body, -, h⟩ := bind_eq_ok.mp h
  obtain ⟨canonical, -, h⟩ := bind_eq_ok.mp h
  obtain rfl := Except.ok.inj h
  exact ⟨rfl, rfl⟩

/-! ## Accounts -/

/-- What a history comes to: the last request, the packet that was accepted for it, and whether it
was cancelled. -/
structure Account where
  request : Option Fields := none
  accepted : Option Text := none
  cancelled : Bool := false

def Account.after (account : Account) : InvitationNote → Account
  | .created record _ => ⟨some record, none, false⟩
  | .committed packet _ _ _ => { account with accepted := some packet }
  | .cancelled => { account with cancelled := true }
  | .opened _ _ => account

def account (history : List InvitationNote) : Account := history.foldl Account.after {}

@[simp] theorem account_append (history : List InvitationNote) (note : InvitationNote) :
    account (history ++ [note]) = (account history).after note := by
  rw [account, account, List.foldl_append]
  rfl

def IsCreated (note : InvitationNote) : Prop := ∃ record returned, note = .created record returned

def IsCommitted (packet : Text) (note : InvitationNote) : Prop :=
  ∃ record invitation returned, note = .committed packet record invitation returned

/-- The keys and the request of a record are those of another. -/
def SameRequest (value other : Fields) : Prop :=
  ∀ key ∈ requestKeys, value.lookup (text key) = other.lookup (text key)

/-- What may be noted about an account. -/
def Account.Allows (r : OfflineInvitationReceiver) (account : Account) : InvitationNote → Prop
  | .created _ _ => True
  | .committed packet record invitation _ =>
    (∀ accepted ∈ account.accepted, accepted = packet) ∧
      (∃ parsed now, jsonDecode packet = some (.map parsed) ∧
        r.verify parsed record now = .ok invitation) ∧
      ∃ created, account.request = some created ∧ SameRequest record created
  | .cancelled => True
  | .opened value result =>
    (account.cancelled = true → result = .ok none) ∧
      ∀ invitation, result = .ok (some invitation) →
        ∃ stored packet, value = some stored ∧ account.accepted = some packet ∧
          canonicalJson (stored.get "accepted_packet") = .ok packet

def Legal (r : OfflineInvitationReceiver) (history : List InvitationNote) : Prop :=
  ∀ before note after, history = before ++ note :: after → (account before).Allows r note

theorem legal_nil : Legal r [] := by
  intro before note after h
  cases before <;> cases h

theorem Legal.append (h : Legal r history) {note : InvitationNote}
    (hnote : (account history).Allows r note) : Legal r (history ++ [note]) := by
  intro before other after hsplit
  rcases eq_of_append_singleton hsplit with ⟨rfl, rfl⟩ | ⟨rest, rfl, hrest⟩
  · rwa [← (List.append_inj' hsplit rfl).1]
  · exact h before other rest hrest

theorem Legal.of_append {note : InvitationNote} (h : Legal r (history ++ [note])) :
    Legal r history ∧ (account history).Allows r note := by
  refine ⟨fun before other after hsplit => ?_, h history note [] rfl⟩
  exact h before other (after ++ [note]) (by rw [hsplit]; simp)

/-- A cancellation that no request came after. -/
theorem account_cancelled (h : Since (· = .cancelled) IsCreated history) :
    (account history).cancelled = true := by
  induction history using List.reverseRecOn with
  | nil => exact absurd h not_since_nil
  | append_singleton history note ih =>
    rw [account_append]
    rcases since_append_singleton.mp h with rfl | ⟨hbefore, hkept⟩
    · rfl
    · cases note with
      | created record returned => exact absurd ⟨record, returned, rfl⟩ hkept
      | committed packet record invitation returned => exact ih hbefore
      | cancelled => rfl
      | opened value result => exact ih hbefore

/-- The last request. -/
theorem account_request {record : Fields} : (account history).request = some record ↔
      ∃ returned, Since (· = .created record returned) IsCreated history := by
  induction history using List.reverseRecOn with
  | nil => simp [account]
  | append_singleton history note ih =>
    simp only [account_append, since_append_singleton, exists_or, exists_and_right, ← ih]
    cases note with
    | created other returned =>
      have hstop : IsCreated (.created other returned) := ⟨other, returned, rfl⟩
      simp [Account.after, hstop]
    | committed packet other invitation returned => simp [Account.after, IsCreated]
    | cancelled => simp [Account.after, IsCreated]
    | opened value result => simp [Account.after, IsCreated]

/-- The packet that was accepted last is the one that was accepted first. -/
theorem account_accepted (hlegal : Legal r history) :
    (account history).accepted = some packet ↔ Since (IsCommitted packet) IsCreated history := by
  induction history using List.reverseRecOn with
  | nil => simp [account]
  | append_singleton history note ih =>
    obtain ⟨hbefore, hnote⟩ := hlegal.of_append
    rw [account_append, since_append_singleton, ← ih hbefore]
    cases note with
    | created other returned =>
      have hstop : IsCreated (.created other returned) := ⟨other, returned, rfl⟩
      simp [Account.after, hstop, IsCommitted]
    | committed other record invitation returned =>
      have hsame : (account history).accepted = some packet → other = packet := fun h =>
        (hnote.1 packet h).symm
      simp only [Account.after, Option.some.injEq, IsCommitted, IsCreated]
      grind
    | cancelled => simp [Account.after, IsCreated, IsCommitted]
    | opened value result => simp [Account.after, IsCreated, IsCommitted]

/-! ## The store -/

/-- What is stored is what an account comes to. -/
structure Reflects (account : Account) (store : Option Fields) : Prop where
  absent : store = none → account.request = none ∧ account.accepted = none
  request : ∀ stored ∈ store, ∃ created, account.request = some created ∧
    SameRequest stored created
  accepted : ∀ stored ∈ store,
    ((stored.get "accepted_packet").isNull = true ∧ account.accepted = none) ∨
      ∃ packet, account.accepted = some packet ∧ (stored.get "accepted_packet").isNull = false ∧
        canonicalJson (stored.get "accepted_packet") = .ok packet
  cancelled : ∀ stored ∈ store, isTrue (stored.get "cancelled") = account.cancelled

structure InvitationInv (r : OfflineInvitationReceiver) (s : InvitationState) : Prop where
  reflects : Reflects (account s.history) s.store
  legal : Legal r s.history
  creating : ∀ i record, s.pendingAt i = some (.creating record) → Unused record

/-- What is written back is what is stored, but for what is written: a packet that is accepted, or
a cancellation. -/
def Fresh (r : OfflineInvitationReceiver) (s : InvitationState) : InvitationStep → Prop
  | .commitPacket i answers => ∀ packet value written, s.pendingAt i = some (.importing packet value) →
      r.importPacket packet value answers = .ok written →
        ∃ stored, s.store = some stored ∧ AgreeOff acceptedKeys value stored ∧
          (stored.get "accepted_packet" = value.get "accepted_packet" ∨
            canonicalJson (stored.get "accepted_packet") = .ok packet)
  | .storeCancelled i => ∀ value, s.pendingAt i = some (.cancelling value) →
      ∃ stored, s.store = some stored ∧ AgreeOff ["cancelled"] value stored
  | _ => True

theorem invitationInv_new : InvitationInv r {} where
  reflects := ⟨fun _ => ⟨rfl, rfl⟩, by simp, by simp, by simp⟩
  legal := legal_nil
  creating := by simp [InvitationState.pendingAt]

namespace InvitationState

variable {s : InvitationState}

theorem pendingAt_began {operation operation' : Pending} {i : Nat}
    (h : (s.began operation).pendingAt i = some operation') :
    s.pendingAt i = some operation' ∨ operation' = operation := by
  by_cases hi : i < s.pending.length
  · left
    simpa [pendingAt, began, List.getElem?_append_left hi] using h
  · right
    by_cases hlast : i = s.pending.length
    · subst hlast
      simpa [pendingAt, began, eq_comm] using h
    · have hnone : (s.began operation).pending[i]? = none := by
        rw [List.getElem?_eq_none_iff]
        simp only [began, List.length_append, List.length_singleton]
        omega
      simp [pendingAt, hnone] at h

theorem pendingAt_ended {operation : Pending} {i j : Nat}
    (h : (s.ended j).pendingAt i = some operation) : s.pendingAt i = some operation := by
  simp only [pendingAt, ended, List.getElem?_set] at h ⊢
  split_ifs at h with hij hj
  · cases h
  · cases h
  · exact h

end InvitationState

section Steps

variable {s : InvitationState}

theorem InvitationInv.began (h : InvitationInv r s) {operation : Pending}
    (hnew : ∀ record, operation = .creating record → Unused record) :
    InvitationInv r (s.began operation) where
  reflects := h.reflects
  legal := h.legal
  creating i record hpending := by
    rcases InvitationState.pendingAt_began hpending with hold | hlast
    · exact h.creating i record hold
    · exact hnew record hlast.symm

theorem InvitationInv.ended (h : InvitationInv r s) (i : Nat) : InvitationInv r (s.ended i) where
  reflects := h.reflects
  legal := h.legal
  creating j record hpending := h.creating j record (InvitationState.pendingAt_ended hpending)

/-- A note about what is stored. -/
theorem InvitationInv.noted (h : InvitationInv r s) {note : InvitationNote}
    (hallowed : (account s.history).Allows r note)
    (hreflects : Reflects ((account s.history).after note) s.store) :
    InvitationInv r (s.noted note) where
  reflects := by
    show Reflects (account (s.history ++ [note])) s.store
    rwa [account_append]
  legal := h.legal.append hallowed
  creating := h.creating

/-- A value that is written. -/
theorem InvitationInv.wrote (h : InvitationInv r s) {i : Nat} {value : Fields}
    {note : InvitationNote} (hallowed : (account s.history).Allows r note)
    (hreflects : Reflects ((account s.history).after note) (some value)) :
    InvitationInv r (s.wrote i value note) where
  reflects := by
    show Reflects (account (s.history ++ [note])) (some value)
    rwa [account_append]
  legal := h.legal.append hallowed
  creating j record hpending := h.creating j record (InvitationState.pendingAt_ended hpending)

theorem InvitationInv.storeRequest (h : InvitationInv r s) (i : Nat) (current currentAfter : Bool) :
    InvitationInv r (s.storeRequest i current currentAfter) := by
  unfold InvitationState.storeRequest
  split
  · next record hpending =>
    split
    · exact h.ended i
    · split
      · exact h.ended i
      · obtain ⟨haccepted, hcancelled⟩ := h.creating i record hpending
        refine h.wrote trivial ⟨nofun, ?_, ?_, ?_⟩
        · rintro stored ⟨⟩
          exact ⟨record, rfl, fun _ _ => rfl⟩
        · rintro stored ⟨⟩
          exact .inl ⟨haccepted, rfl⟩
        · rintro stored ⟨⟩
          exact hcancelled
  · exact h

theorem InvitationInv.commitPacket (h : InvitationInv r s) {i : Nat} {answers : ImportAnswers}
    (hfresh : Fresh r s (.commitPacket i answers)) :
    InvitationInv r (s.commitPacket r i answers) := by
  unfold InvitationState.commitPacket
  split
  · next packet value hpending =>
    split
    · exact h.ended i
    · next written invitation hwritten =>
      obtain ⟨stored, hstored, hagree, hsame⟩ :=
        hfresh packet value (written, invitation) hpending hwritten
      have himported := OfflineInvitationReceiver.importPacket_ok hwritten
      have hwrittenAgree : AgreeOff acceptedKeys written stored := fun key hkey =>
        (himported.agrees key hkey).trans (hagree key hkey)
      have hrequest : ∀ other, AgreeOff acceptedKeys other stored → SameRequest other stored := by
        intro other hother key hkey
        refine hother (text key) ?_
        revert key
        decide
      obtain ⟨created, hcreated, hstoredRequest⟩ := h.reflects.request stored hstored
      -- what was accepted before is the packet
      have hunused : ∀ accepted ∈ (account s.history).accepted, accepted = packet := by
        intro accepted haccepted
        rcases h.reflects.accepted stored hstored with ⟨-, hnone⟩ | ⟨other, hother, hvalue, htext⟩
        · rw [hnone] at haccepted
          cases haccepted
        · obtain rfl := Option.some.inj (hother.symm.trans haccepted)
          rcases hsame with heq | hpacket
          · rw [heq] at hvalue htext
            rcases himported.unused with hnull | hpacket
            · rw [hnull] at hvalue
              cases hvalue
            · exact Except.ok.inj (htext.symm.trans hpacket)
          · exact Except.ok.inj (htext.symm.trans hpacket)
      refine h.wrote ⟨hunused, himported.verified, created, hcreated, fun key hkey => ?_⟩
        ⟨nofun, ?_, ?_, ?_⟩
      · exact (hrequest value hagree key hkey).trans (hstoredRequest key hkey)
      · rintro _ ⟨⟩
        refine ⟨created, hcreated, fun key hkey => ?_⟩
        exact (hrequest written hwrittenAgree key hkey).trans (hstoredRequest key hkey)
      · rintro _ ⟨⟩
        exact .inr ⟨packet, rfl, himported.accepted⟩
      · rintro _ ⟨⟩
        rw [hwrittenAgree.get (by decide)]
        exact h.reflects.cancelled stored hstored
  · exact h

theorem InvitationInv.openNow (h : InvitationInv r s) (accountId accessToken : Option Text)
    (now : Int) : InvitationInv r (s.openNow r accountId accessToken now) := by
  refine h.noted ⟨fun hcancelled => ?_, fun invitation hresult => ?_⟩ h.reflects
  · split
    · rfl
    · next stored hstored =>
      have hflag := (h.reflects.cancelled stored hstored).trans hcancelled
      simp [OfflineInvitationReceiver.openRecord, hflag]
  · split at hresult
    · cases hresult
    · next stored hstored =>
      refine ⟨stored, ?_⟩
      rcases h.reflects.accepted stored hstored with ⟨hnull, -⟩ | ⟨packet, haccepted, -, htext⟩
      · simp [OfflineInvitationReceiver.openRecord, hnull] at hresult
      · exact ⟨packet, hstored, haccepted, htext⟩

theorem InvitationInv.storeCancelled (h : InvitationInv r s) {i : Nat}
    (hfresh : Fresh r s (.storeCancelled i)) : InvitationInv r (s.storeCancelled i) := by
  unfold InvitationState.storeCancelled
  split
  · next value hpending =>
    split
    · exact h.ended i
    · next written hwritten =>
      obtain ⟨stored, hstored, hagree⟩ := hfresh value hpending
      obtain ⟨hwrote, hflag⟩ := OfflineInvitationReceiver.cancelRecord_ok hwritten
      have hwrittenAgree : AgreeOff ["cancelled"] written stored := fun key hkey =>
        (hwrote key hkey).trans (hagree key hkey)
      refine h.wrote trivial ⟨nofun, ?_, ?_, ?_⟩
      · rintro _ ⟨⟩
        obtain ⟨created, hcreated, hrequest⟩ := h.reflects.request stored hstored
        refine ⟨created, hcreated, fun key hkey => ?_⟩
        have hother : text key ∉ ["cancelled"].map text := by
          revert key
          decide
        exact (hwrittenAgree _ hother).trans (hrequest key hkey)
      · rintro _ ⟨⟩
        rw [hwrittenAgree.get (by decide)]
        exact h.reflects.accepted stored hstored
      · rintro _ ⟨⟩
        exact hflag
  · exact h

theorem InvitationInv.cancel (h : InvitationInv r s) : InvitationInv r s.cancel := by
  unfold InvitationState.cancel
  split
  · next hnone =>
    refine h.noted trivial ⟨h.reflects.absent, ?_, ?_, ?_⟩
    · rw [hnone]
      nofun
    · rw [hnone]
      nofun
    · rw [hnone]
      nofun
  · exact h.began nofun

theorem InvitationInv.after (h : InvitationInv r s) (step : InvitationStep)
    (hfresh : Fresh r s step) : InvitationInv r (s.after r step) := by
  cases step with
  | createRequest arguments =>
    show InvitationInv r (s.createRequest r arguments)
    unfold InvitationState.createRequest
    split
    · exact h
    · next record hrecord =>
      refine h.began fun other hother => ?_
      rw [← Pending.creating.inj hother]
      exact OfflineInvitationReceiver.requestRecord_ok hrecord
  | storeRequest i current currentAfter => exact h.storeRequest i current currentAfter
  | readPacket packet =>
    show InvitationInv r (s.readPacket packet)
    unfold InvitationState.readPacket
    split
    · exact h
    · split
      · exact h
      · exact h.began nofun
  | commitPacket i answers => exact h.commitPacket hfresh
  | openRecord accountId accessToken now => exact h.openNow accountId accessToken now
  | cancel => exact h.cancel
  | storeCancelled i => exact h.storeCancelled hfresh

end Steps

/-- In every run whose write-backs are fresh, a cancellation holds until a request comes after it,
what was accepted for a request stays, the request stays, and what is opened was accepted for it. -/
theorem invitations_consumed_once (r : OfflineInvitationReceiver) (steps : List InvitationStep)
    (hfresh : along (InvitationState.after r) (Fresh r) {} steps) :
    (∀ (before : List InvitationNote) value result after,
        (run (InvitationState.after r) {} steps).history = before ++ .opened value result :: after →
          Since (· = .cancelled) IsCreated before → result = .ok none) ∧
      (∀ packet, Since (IsCommitted packet) IsCreated (run (InvitationState.after r) {} steps).history →
        ∃ stored, (run (InvitationState.after r) {} steps).store = some stored ∧
          canonicalJson (stored.get "accepted_packet") = .ok packet) ∧
      (∀ record returned,
        Since (· = .created record returned) IsCreated (run (InvitationState.after r) {} steps).history →
          ∃ stored, (run (InvitationState.after r) {} steps).store = some stored ∧
            SameRequest stored record) ∧
      (∀ (before : List InvitationNote) value invitation after,
        (run (InvitationState.after r) {} steps).history =
          before ++ .opened value (.ok (some invitation)) :: after →
            ∃ stored packet, value = some stored ∧
              canonicalJson (stored.get "accepted_packet") = .ok packet ∧
              Since (IsCommitted packet) IsCreated before) ∧
      ∀ (before : List InvitationNote) packet record invitation returned after,
        (run (InvitationState.after r) {} steps).history =
          before ++ .committed packet record invitation returned :: after →
            (∃ parsed now, jsonDecode packet = some (.map parsed) ∧
              r.verify parsed record now = .ok invitation) ∧
            ∃ created returned', Since (· = .created created returned') IsCreated before ∧
              SameRequest record created := by
  have hinv : InvitationInv r (run (InvitationState.after r) {} steps) :=
    keeps_along (fun _ step hs hstep => hs.after step hstep) invitationInv_new hfresh
  obtain ⟨hreflects, hlegal, -⟩ := hinv
  have hstored : ∀ {record}, (account (run (InvitationState.after r) {} steps).history).request =
      some record → ∃ stored, (run (InvitationState.after r) {} steps).store = some stored := by
    intro record hrecord
    by_contra hnot
    have hnone := Option.eq_none_iff_forall_ne_some.mpr fun stored h => hnot ⟨stored, h⟩
    rw [(hreflects.absent hnone).1] at hrecord
    cases hrecord
  have hlegalBefore : ∀ before note after,
      (run (InvitationState.after r) {} steps).history = before ++ note :: after →
        Legal r before := by
    intro before note after hsplit first other rest hfirst
    refine hlegal first other (rest ++ note :: after) ?_
    rw [hsplit, hfirst]
    simp
  refine ⟨?_, ?_, ?_, ?_, ?_⟩
  · intro before value result after hsplit hsince
    exact (hlegal before _ after hsplit).1 (account_cancelled hsince)
  · intro packet hsince
    have haccepted := (account_accepted hlegal).mpr hsince
    cases hstore : (run (InvitationState.after r) {} steps).store with
    | none =>
      rw [(hreflects.absent hstore).2] at haccepted
      cases haccepted
    | some stored =>
      refine ⟨stored, rfl, ?_⟩
      rcases hreflects.accepted stored hstore with ⟨-, hnone⟩ | ⟨other, hother, -, htext⟩
      · rw [hnone] at haccepted
        cases haccepted
      · rwa [Option.some.inj (haccepted.symm.trans hother)]
  · intro record returned hsince
    have hrequest := account_request.mpr ⟨returned, hsince⟩
    obtain ⟨stored, hstore⟩ := hstored hrequest
    obtain ⟨created, hcreated, hsame⟩ := hreflects.request stored hstore
    obtain rfl := Option.some.inj (hrequest.symm.trans hcreated)
    exact ⟨stored, hstore, hsame⟩
  · intro before value invitation after hsplit
    obtain ⟨stored, packet, hvalue, haccepted, htext⟩ :=
      (hlegal before _ after hsplit).2 invitation rfl
    have hbefore := hlegalBefore before _ after hsplit
    exact ⟨stored, packet, hvalue, htext, (account_accepted hbefore).mp haccepted⟩
  · intro before packet record invitation returned after hsplit
    obtain ⟨-, hverified, created, hcreated, hsame⟩ := hlegal before _ after hsplit
    obtain ⟨returned', hsince⟩ := account_request.mp hcreated
    exact ⟨hverified, created, returned', hsince, hsame⟩

/-! ## Imports and cancellations that overlap -/

/-- An import that nothing interrupts is fresh. -/
theorem fresh_readPacket (s : InvitationState) (packet : Text) (answers : ImportAnswers) {i : Nat}
    (hi : s.pending.length = i) : Fresh r (s.readPacket packet) (.commitPacket i answers) := by
  intro other value written hpending _
  unfold InvitationState.readPacket at hpending ⊢
  split at hpending
  · simp [InvitationState.pendingAt, ← hi] at hpending
  · next hshort =>
    split at hpending
    · simp [InvitationState.pendingAt, ← hi] at hpending
    · next stored hstored =>
      simp only [InvitationState.pendingAt, InvitationState.began, ← hi, List.getElem?_concat_length,
        Option.join_some, Option.some.injEq, Pending.importing.injEq] at hpending
      obtain ⟨-, rfl⟩ := hpending
      rw [if_neg hshort]
      exact ⟨stored, by simp [hstored, InvitationState.began], AgreeOff.refl _ _, .inl rfl⟩

theorem fresh_cancel (s : InvitationState) {i : Nat} (hi : s.pending.length = i) :
    Fresh r s.cancel (.storeCancelled i) := by
  intro value hpending
  unfold InvitationState.cancel at hpending ⊢
  split at hpending
  · simp [InvitationState.pendingAt, InvitationState.noted, ← hi] at hpending
  · next stored hstored =>
    simp only [InvitationState.pendingAt, InvitationState.began, ← hi, List.getElem?_concat_length,
      Option.join_some, Option.some.injEq, Pending.cancelling.injEq] at hpending
    obtain rfl := hpending
    exact ⟨stored, by simp [hstored, InvitationState.began], AgreeOff.refl _ _⟩

section Samples

/-- The kind of a note, with an invitation or without one. -/
inductive NoteKind
  | created
  | committed
  | cancelled
  | opened (found : Bool)
deriving DecidableEq

def InvitationNote.kind : InvitationNote → NoteKind
  | .created _ _ => .created
  | .committed _ _ _ _ => .committed
  | .cancelled => .cancelled
  | .opened _ result => .opened (match result with
      | .ok (some _) => true
      | _ => false)

private def zeros (n : Nat) : List UInt8 := List.replicate n 0

private def sample (s : String) : Document := .string (text s)

private def samplePlaintext : Text :=
  jsonEncode (.map [(text "account_id", sample "a"), (text "device_id", sample "d"),
    (text "install_id", sample "i"),
    (text "session", .map [(text "access_token", sample "t"), (text "refresh_token", sample "t")]),
    (text "managed_response", .map []), (text "inviter_ref", sample "r"),
    (text "trial_ref", sample "r")])

private def sampleReceiver : OfflineInvitationReceiver where
  oracles := ⟨fun _ => zeros 32, fun _ _ => zeros 64, fun _ _ _ => true, id, id,
    fun _ _ _ _ _ _ _ => some (utf8Encode samplePlaintext)⟩
  trust := ⟨text "audience", [(text "k", base64UrlBare (zeros 32))]⟩
  platform := text "android"
  installId := text "i"

private def sampleArguments : RequestArguments where
  consent := true
  clientRelease := text "1"
  coreRelease := text "1"
  runtimeFeatures := []
  routeMode := text "full_tunnel"
  proof := ⟨.ed25519, zeros 32, zeros 32⟩
  delivery := ⟨.x25519, zeros 32, zeros 32⟩
  nonce := zeros 32

private def samplePacket : Text :=
  let bytes := fun n => Document.string (base64UrlBare (zeros n))
  let digest := Document.string (hexBytes (zeros 32))
  jsonEncode (.map [(text "audience", sample "audience"), (text "ciphertext", bytes 1),
    (text "ephemeral_public_key", bytes 32), (text "expires_at", .int 2),
    (text "invite_id", sample "v"), (text "issued_at", .int 1), (text "key_id", sample "k"),
    (text "mac", bytes 16), (text "nonce", bytes 12),
    (text "purpose", .string offlineInvitationPurpose), (text "recipient_key_digest", digest),
    (text "request_digest", digest), (text "signature", bytes 64)])

private def sampleAnswers : ImportAnswers := ⟨1000, true, true, true, true⟩

private def ran (steps : List InvitationStep) : InvitationState :=
  run (InvitationState.after sampleReceiver) {} steps

/-- A packet is imported, opened and cancelled. -/
private def orderedRun : List InvitationStep :=
  [.createRequest sampleArguments, .storeRequest 0 true true, .readPacket samplePacket,
    .commitPacket 1 sampleAnswers, .openRecord none none 1000, .cancel, .storeCancelled 2,
    .openRecord none none 1000]

/-- A packet is read before a cancellation and written after it. -/
private def overlappingRun : List InvitationStep :=
  [.createRequest sampleArguments, .storeRequest 0 true true, .readPacket samplePacket, .cancel,
    .storeCancelled 2, .commitPacket 1 sampleAnswers, .openRecord none none 1000]

/-- A packet is read before another request is stored and written after it. -/
private def overtakenRun : List InvitationStep :=
  [.createRequest sampleArguments, .storeRequest 0 true true, .readPacket samplePacket,
    .createRequest { sampleArguments with proof := ⟨.ed25519, List.replicate 32 1, zeros 32⟩ },
    .storeRequest 2 true true, .commitPacket 1 sampleAnswers]

/-- The last request is not the one that is stored. -/
private def losesRequest (s : InvitationState) : Bool :=
  match s.history, s.store with
  | [.created _ _, .created record _, .committed _ _ _ _], some stored =>
    match record.get "proof_private_key", stored.get "proof_private_key" with
    | .string own, .string other => own ≠ other
    | _, _ => false
  | _, _ => false

theorem sampleRuns_history :
    ((ran (orderedRun.take 2)).pending.length = 1 ∧ (ran (orderedRun.take 5)).pending.length = 2 ∧
      (ran orderedRun).history.map InvitationNote.kind =
        [.created, .committed, .opened true, .cancelled, .opened false]) ∧
    (ran overlappingRun).history.map InvitationNote.kind =
      [.created, .cancelled, .committed, .opened true] ∧ losesRequest (ran overtakenRun) = true := by
  decide +kernel

theorem invitations_consumed_once_ordered :
    (ran orderedRun).history.map InvitationNote.kind =
        [.created, .committed, .opened true, .cancelled, .opened false] ∧
      (∀ before value result after, (ran orderedRun).history = before ++ .opened value result :: after →
        Since (· = .cancelled) IsCreated before → result = .ok none) ∧
      (∀ packet, Since (IsCommitted packet) IsCreated (ran orderedRun).history →
        ∃ stored, (ran orderedRun).store = some stored ∧
          canonicalJson (stored.get "accepted_packet") = .ok packet) ∧
      ∀ record returned, Since (· = .created record returned) IsCreated (ran orderedRun).history →
        ∃ stored, (ran orderedRun).store = some stored ∧ SameRequest stored record := by
  obtain ⟨⟨hread, hopened, hkinds⟩, -⟩ := sampleRuns_history
  have hfresh : along (InvitationState.after sampleReceiver) (Fresh sampleReceiver) {} orderedRun :=
    ⟨trivial, trivial, trivial, fresh_readPacket (ran (orderedRun.take 2)) _ _ hread, trivial, trivial,
      fresh_cancel (ran (orderedRun.take 5)) hopened, trivial, trivial⟩
  obtain ⟨hcancelled, haccepted, hrequest, -⟩ :=
    invitations_consumed_once sampleReceiver orderedRun hfresh
  exact ⟨hkinds, hcancelled, haccepted, hrequest⟩

theorem opened_after_cancelled {history : List InvitationNote}
    (h : history.map InvitationNote.kind = [.created, .cancelled, .committed, .opened true]) :
    ∃ (before : List InvitationNote) (value : _) (result : _),
      history = before ++ [.opened value result] ∧
      Since (· = .cancelled) IsCreated before ∧ result ≠ .ok none := by
  obtain ⟨first, rest, rfl, -, h⟩ := List.map_eq_cons_iff.mp h
  obtain ⟨second, rest, rfl, hsecond, h⟩ := List.map_eq_cons_iff.mp h
  obtain ⟨third, rest, rfl, hthird, h⟩ := List.map_eq_cons_iff.mp h
  obtain ⟨last, rest, rfl, hlast, h⟩ := List.map_eq_cons_iff.mp h
  obtain rfl := List.map_eq_nil_iff.mp h
  cases second with
  | cancelled =>
    cases last with
    | opened value result =>
      refine ⟨[first, .cancelled, third], value, result, rfl, ⟨[first], _, [third], rfl, rfl, ?_⟩, ?_⟩
      · rintro _ hmem ⟨record, returned, rfl⟩
        obtain rfl := List.mem_singleton.mp hmem
        cases hthird
      · rintro rfl
        simp [InvitationNote.kind] at hlast
    | _ => cases hlast
  | _ => cases hsecond

theorem not_same_of_losesRequest {s : InvitationState} (h : losesRequest s = true) :
    ∃ record returned, Since (· = .created record returned) IsCreated s.history ∧
      ∀ stored, s.store = some stored → ¬ SameRequest stored record := by
  unfold losesRequest at h
  split at h
  · next first given record returned _ _ _ _ stored hhistory hstore =>
    refine ⟨record, returned, ⟨[.created first given], _, _, hhistory, rfl, ?_⟩,
      fun other hother hsame => ?_⟩
    · rintro _ hmem ⟨_, _, rfl⟩
      cases List.mem_singleton.mp hmem
    · obtain rfl := Option.some.inj (hstore.symm.trans hother)
      have hget : stored.get "proof_private_key" = record.get "proof_private_key" :=
        Bootstrap.get_eq_of_lookup (hsame "proof_private_key" (by decide))
      rw [hget] at h
      split at h
      · next hown hotherKey =>
        rw [hown] at hotherKey
        cases hotherKey
        simp at h
      · cases h
  · cases h

/-- A cancellation is undone by an import that overlaps it, and a request is lost to one. -/
theorem cancellation_undone :
    (¬ ∀ (r : OfflineInvitationReceiver) (steps : List InvitationStep) (before after) (value) (result),
      (run (InvitationState.after r) {} steps).history = before ++ .opened value result :: after →
        Since (· = .cancelled) IsCreated before → result = .ok none) ∧
    ¬ ∀ (r : OfflineInvitationReceiver) (steps : List InvitationStep) (record) (returned),
      Since (· = .created record returned) IsCreated (run (InvitationState.after r) {} steps).history →
        ∃ stored, (run (InvitationState.after r) {} steps).store = some stored ∧
          SameRequest stored record := by
  obtain ⟨-, hkinds, hloses⟩ := sampleRuns_history
  constructor
  · intro h
    obtain ⟨before, value, result, hhistory, hsince, hne⟩ := opened_after_cancelled hkinds
    exact hne (h sampleReceiver overlappingRun before [] value result hhistory hsince)
  · intro h
    obtain ⟨record, returned, hsince, hnot⟩ := not_same_of_losesRequest hloses
    obtain ⟨stored, hstored, hsame⟩ := h sampleReceiver overtakenRun record returned hsince
    exact hnot stored hstored hsame

end Samples

end Pokrov.AppShell.Invitations
