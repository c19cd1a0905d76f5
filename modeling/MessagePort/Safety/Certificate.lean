import MessagePort.Daemon.Frame
import MessagePort.Semantics.Since

/-!
# Messages on trusted ports

What a dbus manager remembers of its certificate checks is backed by the history
since its connection was opened: the flag by an unresolved app or a comparison
that found no certificate, each cached match by a comparison with that peer. A
message on a trusted port rests on one of the three.
-/

namespace MessagePort.Safety

open Logical Semantics Daemon

/-- The event with which a connection, or a later one of its name, starts. -/
def Connects (conn : Conn) (event : Event) : Prop :=
  ∃ appId validApp, event = .connected conn appId validApp

/-- The app id of the connection was not resolved to an installed application. -/
def Unresolved (trace : List Event) (owner : Conn) : Prop :=
  Since (Connects owner) (fun event => ∃ appId, event = .connected owner appId false) trace

/-- Some comparison made for the connection reported that it has no certificate. -/
def LacksCertificate (trace : List Event) (owner : Conn) : Prop :=
  Since (Connects owner) (fun event => ∃ peer, event = .compared owner peer (.ok .lhsNoCert) ∨
    event = .compared owner peer (.ok .bothNoCert)) trace

/-- Some comparison made for the connection with this peer reported a match. -/
def Matched (trace : List Event) (owner : Conn) (peer : String) : Prop :=
  Since (Connects owner) (· = .compared owner peer (.ok .match)) trace

/-- A message from this sender may reach a trusted port of this owner. -/
def Vetted (trace : List Event) (owner : Conn) (sender : Option String) : Prop :=
  Unresolved trace owner ∨ LacksCertificate trace owner ∨
    ∃ peer, sender = some peer ∧ Matched trace owner peer

/-- What a check leaves behind and accepts, by what it found and compared. -/
theorem validatePeerCertificate_spec {owner : Conn} {dbusManager next : DbusManager}
    {peerAppId : Option String} {comparison : CertComparison} {accepted : Bool} {made : List Event}
    (verdict : DbusManager.validatePeerCertificate owner dbusManager peerAppId comparison =
      .ok (next, accepted, made)) :
    (next.isNullCert = true → dbusManager.isNullCert = true ∨ ∃ peer,
      made = [.compared owner peer (.ok .lhsNoCert)] ∨
      made = [.compared owner peer (.ok .bothNoCert)]) ∧
    (∀ peer, next.peerCerts.lookup peer = some true →
      dbusManager.peerCerts.lookup peer = some true ∨ made = [.compared owner peer (.ok .match)]) ∧
    (accepted = true → next.isNullCert = true ∨
      ∃ peer, peerAppId = some peer ∧ next.peerCerts.lookup peer = some true) := by
  unfold DbusManager.validatePeerCertificate at verdict
  split at verdict
  case isTrue flagged =>
    cases verdict
    exact ⟨.inl, fun _ => .inl, fun _ => .inl flagged⟩
  · cases peerAppId with
    | none => cases verdict
    | some peer =>
      dsimp only at verdict
      split at verdict
      case h_1 isValidCert cached =>
        cases verdict
        exact ⟨.inl, fun _ => .inl, fun valid => .inr ⟨peer, rfl, valid ▸ cached⟩⟩
      · split at verdict
        · cases verdict
          exact ⟨.inl, fun _ => .inl, by simp⟩
        · cases verdict
          exact ⟨fun _ => .inr ⟨peer, .inl rfl⟩, fun _ => .inl, fun _ => .inl rfl⟩
        · cases verdict
          exact ⟨fun _ => .inr ⟨peer, .inr rfl⟩, fun _ => .inl, fun _ => .inl rfl⟩
        case h_4 result _ _ =>
          cases verdict
          refine ⟨.inl, fun other found => ?_, fun valid => .inr ⟨peer, rfl, ?_⟩⟩
          · rcases HashTable.lookup_insert_some.mp found with ⟨same, found⟩ | ⟨_, found⟩
            · have isMatch : result = .match := by simpa using found
              rw [same, isMatch]
              exact .inr rfl
            · exact .inl found
          · rw [AList.lookup_insert, valid]

/-- The flag and the cache of every dbus manager are backed by the history. -/
structure Certified (trace : List Event) (state : State) : Prop where
  flag : ∀ {conn dbusManager}, state.dbusManagers.lookup conn = some dbusManager →
    dbusManager.isNullCert = true → Unresolved trace conn ∨ LacksCertificate trace conn
  cache : ∀ {conn dbusManager peer}, state.dbusManagers.lookup conn = some dbusManager →
    dbusManager.peerCerts.lookup peer = some true → Matched trace conn peer

/-- Every message on a trusted port was vetted when it was emitted. -/
def AllVetted (trace : List Event) : Prop :=
  ∀ before message after, trace = before ++ .emitted message :: after →
    message.service.isTrusted = true → Vetted before message.service.owner message.remoteAppId

/-- `AllVetted` reads each new emission at its own place. -/
theorem AllVetted.append {trace emitted : List Event} (vetted : AllVetted trace)
    (now : ∀ early message late, emitted = early ++ .emitted message :: late →
      message.service.isTrusted = true →
      Vetted (trace ++ early) message.service.owner message.remoteAppId) :
    AllVetted (trace ++ emitted) := by
  intro before message after equal trusted
  rcases List.append_eq_append_iff.mp equal with ⟨early, rfl, split⟩ | ⟨early, rfl, split⟩
  · exact now early message after split trusted
  · cases early with
    | nil =>
        rw [List.append_nil] at vetted now
        have here := now [] message after (by simpa using split.symm) trusted
        rwa [List.append_nil] at here
    | cons head late =>
        simp only [List.cons_append, List.cons.injEq] at split
        obtain ⟨rfl, _⟩ := split
        exact vetted before message late rfl trusted

/-- Nothing emitted on a trusted port needs no vetting. -/
theorem AllVetted.append_of_untrusted {trace emitted : List Event} (vetted : AllVetted trace)
    (untrusted : ∀ message, .emitted message ∈ emitted → message.service.isTrusted = false) :
    AllVetted (trace ++ emitted) := by
  apply vetted.append
  intro early message late split trusted
  have there : .emitted message ∈ emitted := by simp [split]
  rw [untrusted message there] at trusted
  cases trusted

namespace Certified

variable {trace emitted : List Event} {before after : State}

/-- Events without a new connection keep what is certified. -/
theorem append (certified : Certified trace before)
    (quiet : ∀ conn, ∀ event ∈ emitted, ¬ Connects conn event) :
    Certified (trace ++ emitted) before where
  flag := by
    intro conn dbusManager found flagged
    rcases certified.flag found flagged with unresolved | lacking
    · exact .inl (Since.append unresolved (quiet conn))
    · exact .inr (Since.append lacking (quiet conn))
  cache := by
    intro conn dbusManager peer found cached
    exact Since.append (certified.cache found cached) (quiet conn)

/-- Dbus managers that are gone need no certification. -/
theorem restrict (certified : Certified trace before)
    (kept : ∀ conn dbusManager, after.dbusManagers.lookup conn = some dbusManager →
      before.dbusManagers.lookup conn = some dbusManager) : Certified trace after where
  flag found := certified.flag (kept _ _ found)
  cache found := certified.cache (kept _ _ found)

/-- A new connection is flagged only if its app was not resolved. -/
theorem connected {conn : Conn} {appId : Option String} {validApp : Bool}
    (certified : Certified trace before)
    (managers : after.dbusManagers = before.dbusManagers.insert conn ⟨appId, !validApp, ∅⟩) :
    Certified (trace ++ [.connected conn appId validApp]) after := by
  have apart {other : Conn} (different : other ≠ conn) :
      ∀ event ∈ [Event.connected conn appId validApp], ¬ Connects other event := by
    rintro event member ⟨_, _, same⟩
    rw [List.mem_singleton] at member
    rw [member, Event.connected.injEq] at same
    exact different same.1.symm
  constructor
  · intro other dbusManager found flagged
    rw [managers] at found
    rcases HashTable.lookup_insert_some.mp found with ⟨same, rfl⟩ | ⟨different, found⟩
    · have invalid : validApp = false := by simpa using flagged
      rw [same, invalid]
      exact .inl (since_append.mpr (.inl (since_singleton.mpr ⟨appId, rfl⟩)))
    · rcases certified.flag found flagged with unresolved | lacking
      · exact .inl (Since.append unresolved (apart different))
      · exact .inr (Since.append lacking (apart different))
  · intro other dbusManager peer found cached
    rw [managers] at found
    rcases HashTable.lookup_insert_some.mp found with ⟨_, rfl⟩ | ⟨different, found⟩
    · simp at cached
    · exact Since.append (certified.cache found cached) (apart different)

/-- A check keeps the manager of its owner certified. -/
theorem validated {conn : Conn} {dbusManager next : DbusManager} {peerAppId : Option String}
    {comparison : CertComparison} {accepted : Bool} {made : List Event}
    (certified : Certified trace before)
    (owned : before.dbusManagers.lookup conn = some dbusManager)
    (verdict : DbusManager.validatePeerCertificate conn dbusManager peerAppId comparison =
      .ok (next, accepted, made)) :
    Certified (trace ++ made)
      { before with dbusManagers := before.dbusManagers.insert conn next } := by
  have quiet : ∀ other, ∀ event ∈ made, ¬ Connects other event := by
    rintro other event member ⟨_, _, rfl⟩
    rcases DbusManager.validatePeerCertificate_made verdict with rfl | ⟨peer, _, rfl⟩
    all_goals simp at member
  have earlier := certified.append quiet
  obtain ⟨flag, cache, _⟩ := validatePeerCertificate_spec verdict
  constructor
  · intro other found there flagged
    rcases HashTable.lookup_insert_some.mp there with ⟨same, rfl⟩ | ⟨_, there⟩
    · rw [same]
      rcases flag flagged with before | ⟨peer, now⟩
      · exact earlier.flag owned before
      · refine .inr (since_append.mpr (.inl ?_))
        rcases now with rfl | rfl
        · exact since_singleton.mpr ⟨peer, .inl rfl⟩
        · exact since_singleton.mpr ⟨peer, .inr rfl⟩
    · exact earlier.flag there flagged
  · intro other found peer there cached
    rcases HashTable.lookup_insert_some.mp there with ⟨same, rfl⟩ | ⟨_, there⟩
    · rw [same]
      rcases cache peer cached with before | rfl
      · exact earlier.cache owned before
      · exact since_append.mpr (.inl (since_singleton.mpr rfl))
    · exact earlier.cache there cached

end Certified

/-- An accepted check vets the message it was made for. -/
theorem vetted_of_accepted {trace : List Event} {state : State} {conn : Conn}
    {dbusManager next : DbusManager} {peerAppId : Option String} {comparison : CertComparison}
    {made : List Event} (certified : Certified (trace ++ made)
      { state with dbusManagers := state.dbusManagers.insert conn next })
    (verdict : DbusManager.validatePeerCertificate conn dbusManager peerAppId comparison =
      .ok (next, true, made)) : Vetted (trace ++ made) conn peerAppId := by
  have found : (state.dbusManagers.insert conn next).lookup conn = some next :=
    AList.lookup_insert _
  rcases (validatePeerCertificate_spec verdict).2.2 rfl with flagged | ⟨peer, rfl, cached⟩
  · rcases certified.flag found flagged with unresolved | lacking
    · exact .inl unresolved
    · exact .inr (.inl lacking)
  · exact .inr (.inr ⟨peer, rfl, certified.cache found cached⟩)

/-- A step keeps what the managers remember certified, and every trusted message vetted. -/
theorem Certified.step {trace emitted : List Event} {state next : State}
    (certified : Certified trace state) (vetted : AllVetted trace)
    (effect : Effect state emitted next) :
    Certified (trace ++ emitted) next ∧ AllVetted (trace ++ emitted) := by
  -- no connection is new, and nothing is emitted on a trusted port
  have unchanged (quiet : ∀ conn, ∀ event ∈ emitted, ¬ Connects conn event)
      (untrusted : ∀ message, .emitted message ∈ emitted → message.service.isTrusted = false)
      (kept : ∀ conn dbusManager, next.dbusManagers.lookup conn = some dbusManager →
        state.dbusManagers.lookup conn = some dbusManager) :
      Certified (trace ++ emitted) next ∧ AllVetted (trace ++ emitted) := by
    exact ⟨(certified.append quiet).restrict kept, vetted.append_of_untrusted untrusted⟩
  cases effect with
  | quiet _ managers => exact unchanged (by simp) (by simp) (by simp [managers])
  | exportFailed => exact unchanged (by simp [Connects]) (by simp) (by simp)
  | created _ _ _ creates =>
      exact unchanged (by simp [Connects]) (by simp) (by simp [creates.dbusManagers])
  | existing => exact unchanged (by simp [Connects]) (by simp) (by simp)
  | sent _ untrusted =>
      refine unchanged (by simp [Connects]) ?_ (by simp)
      intro other member
      simp only [List.mem_singleton, Event.emitted.injEq] at member
      rw [member, untrusted]
  | unknownId => exact unchanged (by simp [Connects]) (by simp) (by simp)
  | removed _ removes =>
      exact unchanged (by simp [Connects]) (by simp) (by simp [removes.dbusManagers])
  | closed _ closes =>
      refine unchanged (by simp [Connects]) (by simp) ?_
      intro conn dbusManager found
      rw [closes.dbusManagers] at found
      obtain ⟨_, found⟩ := HashTable.lookup_erase_some.mp found
      exact found
  | connected _ _ managers =>
      exact ⟨certified.connected managers, vetted.append_of_untrusted (by simp)⟩
  | @validated message addr owner next accepted made live trusted owned comparison verdict =>
      have checked := certified.validated owned verdict
      have silent : AllVetted (trace ++ made) := by
        apply vetted.append_of_untrusted
        intro other member
        rcases DbusManager.validatePeerCertificate_made verdict with rfl | ⟨peer, _, rfl⟩
        all_goals simp at member
      cases accepted with
      | false => exact ⟨checked, silent⟩
      | true =>
          rw [if_pos rfl, ← List.append_assoc]
          refine ⟨checked.append (by simp [Connects]), silent.append ?_⟩
          intro early other late split _
          have alone : early = [] ∧ other = message := by
            cases early with
            | nil =>
                simp only [List.nil_append, List.cons.injEq, Event.emitted.injEq] at split
                exact ⟨rfl, split.1.symm⟩
            | cons head early => simp at split
          rw [alone.1, alone.2, List.append_nil]
          exact vetted_of_accepted checked verdict

/-- What the managers remember is certified, and every trusted message vetted. -/
theorem certified_of_runs {trace : List Event} {state : State} (run : system.Runs trace state) :
    Certified trace state ∧ AllVetted trace := by
  refine @runs_invariant (fun trace state => Certified trace state ∧ AllVetted trace) ?_ ?_ _ _ run
  · constructor
    · exact ⟨by simp [State.initial], by simp [State.initial]⟩
    · intro before message after equal
      simp at equal
  · rintro trace state emitted next - ⟨certified, vetted⟩ effect
    exact certified.step vetted effect

/-! ## Senders and refusals -/

/-- An answered send: what is emitted carries this app id, and an error means silence. -/
theorem dispatch_emits {state : State} (sound : Sound state) {serviceId : Guint} {data : VariantMap}
    {appId : Option String} {port : String} {isTrusted : Bool} {outcome : Handled Unit}
    (dispatch : Dispatch state serviceId data appId port isTrusted outcome) :
    (∀ message, .emitted message ∈ outcome.events → message.remoteAppId = appId) ∧
      ∀ path error, .error error ∈ outcome.replies path →
        ∀ message, .emitted message ∉ outcome.events := by
  obtain ⟨handled, _⟩ := dispatch.reply
  simp only [← mem_onMessages, Handled.replies, if_pos handled]
  rcases dispatch.onMessages sound with ⟨_, service, answered, emitted, _⟩ |
    ⟨error, answered, emitted⟩
  · simp [answered, emitted]
  · simp [emitted]

/-- Whatever is emitted for a request carries the app id of its connection, and a
refused request emits nothing. -/
theorem serve_emits {state : State} {conn : Conn} {request : Request} {choices : Choices}
    {outcome : Handled request.Answer} (sound : Sound state) (served : conn ∈ state.dbusManagers)
    (ran : serve state conn request choices = .ok outcome) :
    (∀ message, .emitted message ∈ outcome.events →
      message.remoteAppId = (state.dbusManagers.lookup conn).bind (·.appId)) ∧
    ∀ error, .error error ∈ outcome.replies request.path →
      ∀ message, .emitted message ∉ outcome.events := by
  cases request with
  | registerService port isTrusted =>
      have registration := DbusManager.handleRegisterService_cases sound served ran
      cases registration <;> simp
  | checkForRemoteService remoteAppId remotePort isTrusted =>
      obtain ⟨_, none⟩ := DbusManager.handleCheckForRemoteService_quiet ran
      simp [none]
  | sendMessage serviceId data =>
      obtain ⟨sender, silent⟩ := dispatch_emits sound
        (DbusManager.handleSendMessage_cases sound served ran)
      exact ⟨sender, silent _⟩
  | serviceSendMessage path remoteServiceId data =>
      simp only [serve] at ran
      cases exported : state.exports.lookup (conn, path) with
      | none =>
          simp only [exported, Except.ok.injEq] at ran
          subst ran
          simp
      | some addr =>
          obtain ⟨dbusService, live, rfl, _⟩ := sound.exported.mp exported
          simp only [exported] at ran
          obtain ⟨sender, silent⟩ := dispatch_emits sound
            (DbusService.handleSendMessage_cases sound live ran)
          exact ⟨sender, silent _⟩
  | serviceUnregister path =>
      simp only [serve] at ran
      split at ran
      all_goals
        obtain rfl := Except.ok.inj ran
        simp [DbusService.handleUnregister]

/-- Trusted ports only receive vetted messages, and a refused send emits nothing. -/
theorem trusted_messages_vetted {trace : List Event} {state : State}
    (run : system.Runs trace state) :
    AllVetted trace ∧
    ∀ conn request choices outcome, conn ∈ state.dbusManagers →
      serve state conn request choices = .ok outcome →
      (∀ message, .emitted message ∈ outcome.events →
        message.remoteAppId = (state.dbusManagers.lookup conn).bind (·.appId)) ∧
      ∀ error, .error error ∈ outcome.replies request.path →
        ∀ message, .emitted message ∉ outcome.events :=
  ⟨(certified_of_runs run).2, fun _ _ _ _ served ran => serve_emits (sound_of_runs run) served ran⟩

/-- A trusted message that a comparison vetted, and one that the cache did. -/
theorem trusted_messages_vetted_cached : ∃ trace state, system.Runs trace state ∧
    (∃ message, .emitted message ∈ trace ∧ message.service.isTrusted = true) ∧ AllVetted trace := by
  obtain ⟨trace, state, run, accepted⟩ := @EventSystem.Runs.of_exec _ _ _ system
    [.connect 0 (.pid 1 (some "app")) none, .connect 1 (.pid 2 (some "other")) none,
      .request 0 (.registerService "port" true) .benign, .request 1 (.sendMessage 1 []) .benign,
      .request 1 (.sendMessage 1 []) { Choices.benign with comparison := .ok .mismatch }]
    (fun _ trace => trace.count (.emitted ⟨⟨1, 0, "port", true⟩, [], some "other", "", false⟩) = 2)
      (by decide)
  have twice : trace.count (.emitted ⟨⟨1, 0, "port", true⟩, [], some "other", "", false⟩) = 2 := by
    simpa using accepted
  have there : .emitted ⟨⟨1, 0, "port", true⟩, [], some "other", "", false⟩ ∈ trace :=
    List.count_pos_iff.mp (by omega)
  exact ⟨trace, state, run, ⟨_, there, rfl⟩, (trusted_messages_vetted run).1⟩

end MessagePort.Safety
