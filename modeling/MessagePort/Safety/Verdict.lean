import MessagePort.Daemon.Answers

/-!
# The certificate verdict and its history

A dbus manager remembers the verdict on each peer, and once for all that its own
app has no certificate. With an oracle that always answers alike, what it
remembers of a peer is what a comparison with it says; what it remembers of
itself is not, for a peer whose comparison fails.
-/

namespace MessagePort.Safety

open Logical Daemon

/-- The package manager, answering for one owner: one answer for each peer. -/
abbrev Oracle := String → CertComparison

/-- The owner has a certificate, or it has none, in every comparison that does not fail. -/
def Oracle.Consistent (oracle : Oracle) : Prop :=
  ∃ hasCert : Prop, ∀ peer result, oracle peer = .ok result →
    (LacksOwn (oracle peer) ↔ ¬ hasCert)

/-- One check, of a peer that may be without app id. -/
def check (owner : Conn) (oracle : Oracle) (dbusManager : DbusManager) (peer : Option String) :
    Except Fault (DbusManager × Bool × List Event) :=
  DbusManager.validatePeerCertificate owner dbusManager peer (peer.elim (.error 0) oracle)

/-- The manager after a sequence of checks. -/
def checkAll (owner : Conn) (oracle : Oracle) (dbusManager : DbusManager) :
    List (Option String) → Except Fault DbusManager
  | [] => .ok dbusManager
  | peer :: later =>
      match check owner oracle dbusManager peer with
      | .error fault => .error fault
      | .ok (next, _, _) => checkAll owner oracle next later

/-- The verdict on a peer after a sequence of checks. -/
def verdictAfter (owner : Conn) (oracle : Oracle) (dbusManager : DbusManager)
    (history : List (Option String)) (peer : Option String) : Except Fault Bool :=
  match checkAll owner oracle dbusManager history with
  | .error fault => .error fault
  | .ok left =>
      match check owner oracle left peer with
      | .error fault => .error fault
      | .ok (_, verdict, _) => .ok verdict

/-- Some check of a history found that the owner has no certificate. -/
def Reveals (oracle : Oracle) (history : List (Option String)) : Prop :=
  ∃ peer, some peer ∈ history ∧ LacksOwn (oracle peer)

/-- What is cached for a peer is what its comparison says. -/
def Remembers (oracle : Oracle) (dbusManager : DbusManager) : Prop :=
  ∀ peer isValidCert, dbusManager.peerCerts.lookup peer = some isValidCert →
    ¬ LacksOwn (oracle peer) ∧ isValidCert = plainVerdict (oracle peer)

section History

variable {owner : Conn} {oracle : Oracle} {dbusManager : DbusManager} {peer : Option String}

/-- A check without app id only ends for an owner without a certificate. -/
theorem check_none : check owner oracle dbusManager none =
    if dbusManager.isNullCert then .ok (dbusManager, true, []) else .error .nullKey := rfl

/-- One check flags the owner if it finds no certificate, and caches what the oracle says. -/
theorem check_step {next : DbusManager} {verdict : Bool} {made : List Event}
    (remembers : Remembers oracle dbusManager)
    (ran : check owner oracle dbusManager peer = .ok (next, verdict, made)) :
    Remembers oracle next ∧
      (next.isNullCert = true ↔ dbusManager.isNullCert = true ∨ Reveals oracle [peer]) ∧
      (verdict = true ↔ dbusManager.isNullCert = true ∨
        ∃ app, peer = some app ∧ plainVerdict (oracle app) = true) := by
  cases peer with
  | none =>
      rw [check_none] at ran
      split at ran
      case isTrue flagged =>
        cases ran
        exact ⟨remembers, by simp [flagged], by simp [flagged]⟩
      · cases ran
  | some app =>
      obtain ⟨left, done, result, flag, cache⟩ :=
        validatePeerCertificate_some owner dbusManager app (oracle app)
      rw [check, Option.elim_some, result] at ran
      cases ran
      refine ⟨fun other isValidCert found => ?_, ?_, ?_⟩
      · rcases cache other isValidCert found with earlier | ⟨rfl, now⟩
        · exact remembers other isValidCert earlier
        · exact now
      · rw [flag]
        constructor
        · rintro (flagged | ⟨_, lacks⟩)
          · exact .inl flagged
          · exact .inr ⟨app, List.mem_cons_self, lacks⟩
        · rintro (flagged | ⟨other, member, lacks⟩)
          · exact .inl flagged
          · cases List.mem_singleton.mp member
            refine .inr ⟨?_, lacks⟩
            cases cached : dbusManager.peerCerts.lookup app with
            | none => rfl
            | some isValidCert => exact absurd lacks (remembers app isValidCert cached).1
      · simp only [verdictOn, Bool.or_eq_true, Option.some.injEq, exists_eq_left']
        cases cached : dbusManager.peerCerts.lookup app with
        | none => rfl
        | some isValidCert => rw [Option.getD_some, (remembers app isValidCert cached).2]

/-- After a history the owner is flagged if it was, or if a check found no certificate. -/
theorem checkAll_spec {history : List (Option String)} {left : DbusManager}
    (remembers : Remembers oracle dbusManager)
    (ran : checkAll owner oracle dbusManager history = .ok left) :
    Remembers oracle left ∧
      (left.isNullCert = true ↔ dbusManager.isNullCert = true ∨ Reveals oracle history) := by
  induction history generalizing dbusManager with
  | nil =>
      obtain rfl := Except.ok.inj ran
      exact ⟨remembers, by simp [Reveals]⟩
  | cons first later ih =>
      simp only [checkAll] at ran
      rcases checked : check owner oracle dbusManager first with fault | ⟨next, verdict, made⟩ <;>
        rw [checked] at ran
      · cases ran
      · obtain ⟨kept, flag, _⟩ := check_step remembers checked
        obtain ⟨still, flags⟩ := ih kept ran
        refine ⟨still, ?_⟩
        rw [flags, flag, or_assoc]
        simp [Reveals, or_and_right, exists_or]

/-- The verdict after a history on a fresh owner: that of the comparison alone,
unless the owner is known to have no certificate. -/
theorem verdictAfter_spec {appId : Option String} {isNullCert verdict : Bool}
    {history : List (Option String)}
    (ran : verdictAfter owner oracle ⟨appId, isNullCert, ∅⟩ history peer = .ok verdict) :
    verdict = true ↔ (isNullCert = true ∨ Reveals oracle history) ∨
      ∃ app, peer = some app ∧ plainVerdict (oracle app) = true := by
  unfold verdictAfter at ran
  rcases checked : checkAll owner oracle ⟨appId, isNullCert, ∅⟩ history with fault | left <;>
    rw [checked] at ran
  · cases ran
  · obtain ⟨remembers, flag⟩ := checkAll_spec (by simp [Remembers]) checked
    rcases result : check owner oracle left peer with fault | ⟨next, verdict', made⟩ <;>
      simp only [result] at ran
    · cases ran
    · obtain rfl := Except.ok.inj ran
      rw [(check_step remembers result).2.2, flag]

/-- Checks of peers with app ids end. -/
theorem checkAll_total {history : List (Option String)} (known : none ∉ history) :
    ∃ left, checkAll owner oracle dbusManager history = .ok left := by
  induction history generalizing dbusManager with
  | nil => exact ⟨dbusManager, rfl⟩
  | cons first later ih =>
      rw [List.mem_cons, not_or] at known
      cases first with
      | none => exact absurd rfl known.1
      | some app =>
          obtain ⟨next, made, checked, _⟩ :=
            validatePeerCertificate_some owner dbusManager app (oracle app)
          simp only [checkAll, check, Option.elim_some, checked]
          exact ih known.2

theorem verdictAfter_total {history : List (Option String)} (known : none ∉ history)
    (app : String) :
    ∃ verdict, verdictAfter owner oracle dbusManager history (some app) = .ok verdict := by
  obtain ⟨left, checked⟩ := @checkAll_total owner oracle dbusManager _ known
  obtain ⟨next, made, result, _⟩ := validatePeerCertificate_some owner left app (oracle app)
  refine ⟨verdictOn left app (oracle app), ?_⟩
  simp only [verdictAfter, checked, check, Option.elim_some, result]

/-- A check without app id is only ever accepted. -/
theorem verdictAfter_none {history : List (Option String)} {verdict : Bool}
    (ran : verdictAfter owner oracle dbusManager history none = .ok verdict) : verdict = true := by
  simp only [verdictAfter, check_none] at ran
  cases checked : checkAll owner oracle dbusManager history with
  | error fault => simp [checked] at ran
  | ok left =>
      cases certified : left.isNullCert with
      | true => simpa [checked, certified] using ran.symm
      | false => simp [checked, certified] at ran

end History

/-- The comparison with this peer fails, and the owner is known to have no
certificate after exactly one of the two histories. -/
def Disagreeing (oracle : Oracle) (isNullCert : Bool) (first second : List (Option String))
    (peer : Option String) : Prop :=
  isNullCert = false ∧ (∃ app, peer = some app ∧ ∃ error, oracle app = .error error) ∧
    ¬ (Reveals oracle first ↔ Reveals oracle second)

/-- A comparison that says that the owner has a certificate, or fails, is not accepted;
no other is refused. -/
theorem plainVerdict_false {oracle : Oracle} {app : String}
    (refused : plainVerdict (oracle app) = false) :
    ¬ LacksOwn (oracle app) := by
  rintro (lacks | lacks)
  all_goals
    rw [lacks] at refused
    cases refused

/-- A consistent oracle that has once answered for an owner with a certificate
never reveals that there is none. -/
theorem Oracle.Consistent.not_reveals {oracle : Oracle} (consistent : oracle.Consistent)
    {app : String} {result : CertCompareResult} (answered : oracle app = .ok result)
    (has : ¬ LacksOwn (oracle app)) (history : List (Option String)) :
    ¬ Reveals oracle history := by
  obtain ⟨hasCert, consistent⟩ := consistent
  rintro ⟨peer, _, lacks⟩
  have certified : ¬ ¬ hasCert := fun missing => has ((consistent app result answered).mpr missing)
  rcases lacks with now | now
  · exact certified ((consistent peer _ now).mp (.inl now))
  · exact certified ((consistent peer _ now).mp (.inr now))

/-- The verdict depends on the history exactly for a peer whose comparison fails,
where the owner was found to have no certificate in one history and not in the
other. Peers with app ids always get a verdict. -/
theorem verdict_independent_iff (owner : Conn) (oracle : Oracle) (consistent : oracle.Consistent)
    (appId : Option String) (isNullCert : Bool) :
    (∀ history app, none ∉ history → ∃ verdict,
      verdictAfter owner oracle ⟨appId, isNullCert, ∅⟩ history (some app) = .ok verdict) ∧
    ∀ first second peer one other,
      verdictAfter owner oracle ⟨appId, isNullCert, ∅⟩ first peer = .ok one →
      verdictAfter owner oracle ⟨appId, isNullCert, ∅⟩ second peer = .ok other →
      (one = other ↔ ¬ Disagreeing oracle isNullCert first second peer) := by
  refine ⟨fun history app known => verdictAfter_total known app, ?_⟩
  intro first second peer one other ran ran'
  cases peer with
  | none => simp [verdictAfter_none ran, verdictAfter_none ran', Disagreeing]
  | some app =>
      rw [Bool.eq_iff_iff, verdictAfter_spec ran, verdictAfter_spec ran', Disagreeing]
      cases isNullCert with
      | true => simp
      | false =>
          simp only [Bool.false_eq_true, false_or, true_and, Option.some.injEq, exists_eq_left']
          cases answer : oracle app with
          | error error =>
              -- the comparison says no, so the owner's flag decides
              simp [plainVerdict]
          | ok result =>
              cases plain : plainVerdict (.ok result) with
              | true => simp
              | false =>
                  have silent := consistent.not_reveals answer (plainVerdict_false (answer ▸ plain))
                  simp [silent]

/-- An oracle that cannot compare one peer, and finds no certificate for any other. -/
def failingOracle : Oracle := fun peer => if peer = "failing" then .error (-1) else .ok .lhsNoCert

theorem failingOracle_consistent : failingOracle.Consistent := by
  refine ⟨False, fun peer result answered => ?_⟩
  simp only [failingOracle] at answered ⊢
  split at answered
  · cases answered
  case isFalse other =>
    simp [LacksOwn, other]

/-- A fresh owner refuses a peer whose comparison fails, and accepts it after another. -/
theorem verdict_independent_iff_failing :
    verdictAfter 0 failingOracle ⟨some "app", false, ∅⟩ [] (some "failing") = .ok false ∧
    verdictAfter 0 failingOracle ⟨some "app", false, ∅⟩ [some "other"] (some "failing") = .ok true ∧
    Disagreeing failingOracle false [] [some "other"] (some "failing") := by
  have fresh : verdictAfter 0 failingOracle ⟨some "app", false, ∅⟩ []
      (some "failing") = .ok false := by
    decide
  have later : verdictAfter 0 failingOracle ⟨some "app", false, ∅⟩ [some "other"] (some "failing") =
    .ok true := by decide
  refine ⟨fresh, later, ?_⟩
  have apart :=
    ((verdict_independent_iff 0 failingOracle failingOracle_consistent
      (some "app") false).2 _ _ _ _ _ fresh later).not.mp (by decide)
  exact not_not.mp apart

/-- The verdict on a peer is not always the same after two histories. -/
theorem verdict_depends : ¬ ∀ (owner : Conn) (oracle : Oracle), oracle.Consistent →
    ∀ appId isNullCert first second peer one other,
      verdictAfter owner oracle ⟨appId, isNullCert, ∅⟩ first peer = .ok one →
      verdictAfter owner oracle ⟨appId, isNullCert, ∅⟩ second peer = .ok other → one = other := by
  intro independent
  have same := independent 0 failingOracle failingOracle_consistent (some "app") false
    [] [some "other"] (some "failing") false true (by decide) (by decide)
  cases same

end MessagePort.Safety
