import MessagePort.Safety.Certificate

/-!
# Certificates are compared once

The package manager is asked about an owner and a peer only while nothing is known of
the two: no comparison of the same certificates was answered since the owner
connected, and the owner was not found to have no certificate.
-/

namespace MessagePort.Safety

open Logical Semantics Daemon

/-- The package manager compared the certificates of the two, since the owner connected. -/
def Compared (trace : List Event) (owner : Conn) (peer : String) : Prop :=
  Since (Connects owner) (fun event => ∃ result, event = .compared owner peer (.ok result)) trace

/-- The verdict for the peer can be told from the history of the owner. -/
def Settled (trace : List Event) (owner : Conn) (peer : String) : Prop :=
  Unresolved trace owner ∨ LacksCertificate trace owner ∨ Compared trace owner peer

/-- A dbus manager knows the verdict for a peer. -/
def Knows (dbusManager : DbusManager) (peer : String) : Prop :=
  dbusManager.isNullCert = true ∨ ∃ isValidCert,
  dbusManager.peerCerts.lookup peer = some isValidCert

/-- Whatever is settled, the manager of the owner knows. -/
def Recorded (trace : List Event) (state : State) : Prop :=
  ∀ owner dbusManager peer, state.dbusManagers.lookup owner = some dbusManager →
    Settled trace owner peer → Knows dbusManager peer

/-- Only a connection can make a difference to what was settled before. -/
theorem settled_append {trace emitted : List Event} {owner : Conn} {peer : String}
    (settled : Settled (trace ++ emitted) owner peer) :
    Settled emitted owner peer ∨ Settled trace owner peer ∧ ∀ event ∈ emitted,
      ¬ Connects owner event := by
  rcases settled with unresolved | lacking | compared
  · exact (since_append.mp unresolved).imp .inl fun ⟨earlier, quiet⟩ => ⟨.inl earlier, quiet⟩
  · exact (since_append.mp lacking).imp (.inr ∘ .inl) fun ⟨earlier, quiet⟩ =>
      ⟨.inr (.inl earlier), quiet⟩
  · exact (since_append.mp compared).imp (.inr ∘ .inr) fun ⟨earlier, quiet⟩ =>
      ⟨.inr (.inr earlier), quiet⟩

/-- One event settles something if it says that the owner has no certificate, or tells a verdict. -/
theorem settled_singleton {event : Event} {owner : Conn} {peer : String}
    (settled : Settled [event] owner peer) :
    (∃ appId, event = .connected owner appId false) ∨
      ∃ other result, event = .compared owner other (.ok result) ∧
        (result = .lhsNoCert ∨ result = .bothNoCert ∨ other = peer) := by
  simp only [Settled, Unresolved, LacksCertificate, Compared, since_singleton] at settled
  rcases settled with unresolved | ⟨other, rfl | rfl⟩ | ⟨result, rfl⟩
  · exact .inl unresolved
  · exact .inr ⟨other, _, rfl, .inl rfl⟩
  · exact .inr ⟨other, _, rfl, .inr (.inl rfl)⟩
  · exact .inr ⟨peer, result, rfl, .inr (.inr rfl)⟩

/-- Events that say nothing of certificates. -/
theorem settled_silent {trace emitted : List Event} {owner : Conn} {peer : String}
    (silent : ∀ event ∈ emitted, ¬ Connects owner event ∧
      ∀ other result, event ≠ .compared owner other (.ok result))
    (settled : Settled (trace ++ emitted) owner peer) : Settled trace owner peer := by
  rcases settled_append settled with now | ⟨earlier, _⟩
  · have occurs : ∃ event ∈ emitted, Connects owner event ∨
        ∃ other result, event = .compared owner other (.ok result) := by
      rcases now with unresolved | lacking | compared
      · obtain ⟨event, member, appId, rfl⟩ := Since.occurred unresolved
        exact ⟨_, member, .inl ⟨appId, false, rfl⟩⟩
      · obtain ⟨event, member, other, same⟩ := Since.occurred lacking
        exact ⟨_, member,
          .inr (same.elim (fun same => ⟨other, _, same⟩) fun same => ⟨other, _, same⟩)⟩
      · obtain ⟨event, member, result, same⟩ := Since.occurred compared
        exact ⟨_, member, .inr ⟨peer, result, same⟩⟩
    obtain ⟨event, member, connects | ⟨other, result, same⟩⟩ := occurs
    · exact absurd connects (silent event member).1
    · exact absurd same ((silent event member).2 other result)
  · exact earlier

/-- A check forgets nothing; it compares only what is not known, and knows the result. -/
theorem validatePeerCertificate_knows {owner : Conn} {dbusManager next : DbusManager}
    {peerAppId : Option String} {comparison : CertComparison} {accepted : Bool} {made : List Event}
    (verdict : DbusManager.validatePeerCertificate owner dbusManager peerAppId comparison =
      .ok (next, accepted, made)) :
    (∀ peer, Knows dbusManager peer → Knows next peer) ∧
    ∀ {event}, event ∈ made → ∃ other, event = .compared owner other comparison ∧
      ¬ Knows dbusManager other ∧ ∀ result, comparison = .ok result →
        Knows next other ∧ (result = .lhsNoCert ∨ result = .bothNoCert →
          next.isNullCert = true) := by
  unfold DbusManager.validatePeerCertificate at verdict
  split at verdict
  · cases verdict
    exact ⟨fun _ => id, by simp⟩
  case isFalse certified =>
    split at verdict
    · cases verdict
    case h_2 peer =>
      split at verdict
      · cases verdict
        exact ⟨fun _ => id, by simp⟩
      case h_2 uncached =>
        have unknown : ¬ Knows dbusManager peer := by
          rintro (flagged | ⟨isValidCert, cached⟩)
          · exact certified flagged
          · rw [uncached] at cached
            cases cached
        dsimp only at verdict
        split at verdict
        · cases verdict
          refine ⟨fun _ => id, fun member => ⟨peer, List.mem_singleton.mp member, unknown, ?_⟩⟩
          rintro _ ⟨⟩
        · cases verdict
          refine ⟨fun _ _ => .inl rfl,
            fun member => ⟨peer, List.mem_singleton.mp member, unknown, ?_⟩⟩
          exact fun _ _ => ⟨.inl rfl, fun _ => rfl⟩
        · cases verdict
          refine ⟨fun _ _ => .inl rfl,
            fun member => ⟨peer, List.mem_singleton.mp member, unknown, ?_⟩⟩
          exact fun _ _ => ⟨.inl rfl, fun _ => rfl⟩
        case h_4 result left both =>
          cases verdict
          refine ⟨fun other known => ?_,
            fun member => ⟨peer, List.mem_singleton.mp member, unknown, ?_⟩⟩
          · rcases known with flagged | ⟨isValidCert, cached⟩
            · exact .inl flagged
            · by_cases same : other = peer
              · exact absurd (same ▸ .inr ⟨isValidCert, cached⟩) unknown
              · exact .inr ⟨isValidCert, (AList.lookup_insert_ne same).trans cached⟩
          · rintro _ ⟨⟩
            refine ⟨.inr ⟨_, AList.lookup_insert _⟩, ?_⟩
            rintro (rfl | rfl)
            · exact absurd rfl left
            · exact absurd rfl both

/-- A check emits its comparison, if it makes one, and then the message, if it accepts. -/
theorem made_split (made : List Event) (accepted : Bool) (message : OnMessage) :
    ∃ tail, (if accepted then made ++ [.emitted message] else made) = made ++ tail ∧
      ∀ event ∈ tail, event = .emitted message := by
  cases accepted with
  | true => exact ⟨[.emitted message], rfl, fun event => List.mem_singleton.mp⟩
  | false => exact ⟨[], by simp, by simp⟩

/-- What was settled before does not concern a new connection: only its own app id does. -/
theorem Recorded.connected {trace : List Event} {state next : State} {conn : Conn}
    {appId : Option String} {validApp : Bool} (recorded : Recorded trace state)
    (managers : next.dbusManagers = state.dbusManagers.insert conn ⟨appId, !validApp, ∅⟩) :
    Recorded (trace ++ [.connected conn appId validApp]) next := by
  intro owner dbusManager peer found settled
  rw [managers] at found
  rcases HashTable.lookup_insert_some.mp found with ⟨rfl, rfl⟩ | ⟨different, found⟩
  · rcases settled_append settled with now | ⟨_, quiet⟩
    · rcases settled_singleton now with ⟨_, same⟩ | ⟨_, _, same, _⟩
      · obtain ⟨_, _, rfl⟩ := Event.connected.inj same
        exact .inl rfl
      · cases same
    · exact absurd ⟨appId, validApp, rfl⟩ (quiet _ List.mem_cons_self)
  · refine recorded owner dbusManager peer found (settled_silent ?_ settled)
    intro event member
    obtain rfl := List.mem_singleton.mp member
    refine ⟨?_, by simp⟩
    rintro ⟨_, _, same⟩
    exact different (Event.connected.inj same).1.symm

/-- A check records what it settles, for its owner and for no one else. -/
theorem Recorded.checked {trace made : List Event} {state : State} {owner : Conn}
    {dbusManager left : DbusManager} {peerAppId : Option String} {comparison : CertComparison}
    {accepted : Bool} (recorded : Recorded trace state)
    (owned : state.dbusManagers.lookup owner = some dbusManager)
    (verdict : DbusManager.validatePeerCertificate owner dbusManager peerAppId comparison =
      .ok (left, accepted, made)) :
    Recorded (trace ++ made)
      { state with dbusManagers := state.dbusManagers.insert owner left } := by
  obtain ⟨keeps, compares⟩ := validatePeerCertificate_knows verdict
  intro conn found peer there settled
  rcases HashTable.lookup_insert_some.mp there with ⟨rfl, rfl⟩ | ⟨different, there⟩
  · rcases DbusManager.validatePeerCertificate_made verdict with rfl | ⟨other, _, rfl⟩
    · rw [List.append_nil] at settled
      exact keeps peer (recorded _ dbusManager peer owned settled)
    · rcases settled_append settled with fresh | ⟨earlier, _⟩
      · obtain ⟨asked, same, _, learned⟩ := compares List.mem_cons_self
        obtain ⟨_, rfl, _⟩ := Event.compared.inj same
        rcases settled_singleton fresh with ⟨_, same⟩ | ⟨_, result, same, tells⟩
        · cases same
        · obtain ⟨_, rfl, rfl⟩ := Event.compared.inj same
          obtain ⟨known, flagged⟩ := learned result rfl
          rcases tells with lacks | lacks | rfl
          · exact .inl (flagged (.inl lacks))
          · exact .inl (flagged (.inr lacks))
          · exact known
      · exact keeps peer (recorded _ dbusManager peer owned earlier)
  · refine recorded conn found peer there (settled_silent ?_ settled)
    intro event member
    obtain ⟨other, rfl, _⟩ := compares member
    refine ⟨by simp [Connects], fun other result same => ?_⟩
    exact different (Event.compared.inj same).1.symm

/-- Events that say nothing of certificates settle nothing. -/
theorem Recorded.silent {trace emitted : List Event} {state next : State}
    (recorded : Recorded trace state)
    (silent : ∀ owner, ∀ event ∈ emitted, ¬ Connects owner event ∧ ∀ other result,
      event ≠ .compared owner other (.ok result))
    (kept : ∀ conn dbusManager, next.dbusManagers.lookup conn = some dbusManager →
      state.dbusManagers.lookup conn = some dbusManager) :
    Recorded (trace ++ emitted) next := by
  intro owner dbusManager peer found settled
  exact recorded owner dbusManager peer (kept _ _ found) (settled_silent (silent owner) settled)

/-- A step keeps what is settled recorded. -/
theorem recorded_step {trace emitted : List Event} {state next : State}
    (recorded : Recorded trace state) (effect : Effect state emitted next) :
    Recorded (trace ++ emitted) next := by
  cases effect with
  | quiet _ managers => exact recorded.silent (by simp) (by simp [managers])
  | exportFailed => exact recorded.silent (by simp [Connects]) (by simp)
  | created _ _ _ creates =>
      exact recorded.silent (by simp [Connects]) (by simp [creates.dbusManagers])
  | existing => exact recorded.silent (by simp [Connects]) (by simp)
  | sent => exact recorded.silent (by simp [Connects]) (by simp)
  | unknownId => exact recorded.silent (by simp [Connects]) (by simp)
  | removed _ removes => exact recorded.silent (by simp [Connects]) (by simp [removes.dbusManagers])
  | closed _ closes =>
      refine recorded.silent (by simp [Connects]) ?_
      intro conn dbusManager found
      rw [closes.dbusManagers] at found
      exact (HashTable.lookup_erase_some.mp found).2
  | connected _ _ managers => exact recorded.connected managers
  | @validated message addr owner left accepted made live trusted owned comparison verdict =>
      obtain ⟨tail, same, emissions⟩ := made_split made accepted message
      rw [same, ← List.append_assoc]
      refine (recorded.checked owned verdict).silent (fun other event member => ?_) fun _ _ => id
      rw [emissions event member]
      exact ⟨by simp [Connects], by simp⟩

/-- What is settled is recorded in every reachable state. -/
theorem recorded_of_runs {trace : List Event} {state : State} (run : system.Runs trace state) :
    Recorded trace state := by
  refine @runs_invariant Recorded ?_ ?_ _ _ run
  · intro owner dbusManager peer found
    cases found
  · rintro trace state emitted next - recorded effect
    exact recorded_step recorded effect

/-- A step compares certificates first of all, and only with a peer that is not known. -/
theorem unknown_of_compared {state next : State} {emitted early late : List Event} {owner : Conn}
    {peer : String} {comparison : CertComparison} (effect : Effect state emitted next)
    (split : emitted = early ++ .compared owner peer comparison :: late) :
    early = [] ∧ ∃ dbusManager, state.dbusManagers.lookup owner = some dbusManager ∧
      ¬ Knows dbusManager peer := by
  have member : .compared owner peer comparison ∈ emitted :=
    split ▸ List.mem_append_right _ List.mem_cons_self
  cases effect with
  | @validated message addr manager left accepted made live trusted owned compares verdict =>
      obtain ⟨tail, same, emissions⟩ := made_split made accepted message
      rw [same] at split
      have other : .compared owner peer comparison ∉ tail :=
        fun inside => by cases emissions _ inside
      rcases DbusManager.validatePeerCertificate_made verdict with rfl | ⟨asked, _, rfl⟩
      · rw [List.nil_append] at split
        rw [split] at other
        exact absurd (List.mem_append_right _ List.mem_cons_self) other
      · cases early with
        | cons head early =>
            obtain ⟨_, rest⟩ := List.cons.inj split
            rw [show tail = early ++ .compared owner peer comparison :: late from rest] at other
            exact absurd (List.mem_append_right _ List.mem_cons_self) other
        | nil =>
            obtain ⟨first, _⟩ := List.cons.inj split
            obtain ⟨asked', same', unknown, _⟩ :=
              (validatePeerCertificate_knows verdict).2 List.mem_cons_self
            obtain ⟨rfl, rfl, _⟩ := Event.compared.inj first
            obtain ⟨_, rfl, _⟩ := Event.compared.inj same'
            exact ⟨rfl, manager, owned, unknown⟩
  | _ => simp at member

/-- Nothing is compared whose verdict could be told from the history. -/
theorem compared_once {trace before after : List Event} {state : State}
    (run : system.Runs trace state) {owner : Conn} {peer : String} {comparison : CertComparison}
    (split : trace = before ++ .compared owner peer comparison :: after) :
    ¬ Settled before owner peer := by
  intro settled
  obtain ⟨prior, middle, label, next, early, late, rest, earlier, transition, _, rfl, _⟩ :=
    EventSystem.Steps.of_event run split
  have effect := (step_effect (sound_of_runs earlier) transition).1
  obtain ⟨rfl, dbusManager, found, unknown⟩ := unknown_of_compared effect rfl
  rw [List.append_nil] at settled
  exact unknown (recorded_of_runs earlier owner dbusManager peer found settled)

/-- Two messages to a trusted port, the second to a port of the owner's next connection:
each time the certificates are compared. -/
theorem compared_once_again : ∃ before after peer comparison state,
    system.Runs (before ++ .compared 0 peer comparison :: after) state ∧
    .compared 0 peer comparison ∈ before ∧ ¬ Settled before 0 peer := by
  obtain ⟨trace, state, run, accepted⟩ := @EventSystem.Runs.of_exec _ _ _ system
    [.connect 1 (.pid 2 (some "peer")) none, .connect 0 (.pid 1 (some "app")) none,
      .request 0 (.registerService "port" true) .benign, .request 1 (.sendMessage 1 []) .benign,
      .close 0, .connect 0 (.pid 1 (some "app")) none,
      .request 0 (.registerService "port" true) .benign,
      .request 1 (.sendMessage 2 []) .benign]
    (fun _ trace => trace = trace.take 10 ++ .compared 0 "peer" (.ok .match) :: trace.drop 11 ∧
      .compared 0 "peer" (.ok .match) ∈ trace.take 10) (by decide)
  obtain ⟨split, earlier⟩ := of_decide_eq_true accepted
  refine ⟨trace.take 10, trace.drop 11, "peer", .ok .match, state, split ▸ run, earlier, ?_⟩
  exact compared_once run split

end MessagePort.Safety
