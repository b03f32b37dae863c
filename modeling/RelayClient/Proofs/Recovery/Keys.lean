import RelayClient.Proofs.Recovery.Watched

/-!
# The keys of recovery

Recovery restarts a session with the keys that were in use when the connection was last
good, and gives the frontend the same keys when it gives up. A restart that was begun
before is not called off by a good connection, and keeps to the keys it was begun with.
-/

namespace RelayClient

/-- How a session is set up to resume with some keys: replicated data is kept. -/
def InitParams.resuming (keys : Option ResumeKeys) : InitParams :=
  { pair := keys.map (·.pair), trustedPeer := keys.bind (·.peer), resetFields := false }

theorem Recovery.params_eq (recovery : Recovery) : recovery.params = .resuming recovery.keys := rfl

namespace Session

/-- The keys in use when the connection was last good. -/
def keysInUse (ok : Option Session) : Option ResumeKeys :=
  ok.bind resumeKeys

/-- When the connection was last good, the restart of an attempt had yet to set the session up. -/
def Owes (ok : Option Session) (attempt : Nat) : Prop :=
  ∃ good restart, ok = some good ∧ good.recovery.bind (·.restart) = some restart ∧ restart.attempt = attempt ∧
    restart.stage.isOutstanding = true

/-- What recovery keeps to until the connection is good again. -/
structure Retains (ok : Option Session) (session : Session) : Prop where
  knows : session.Knows (keysInUse ok)
  /-- Without a good connection nothing is begun. -/
  idle : keysInUse ok = none → ∀ recovery, session.recovery = some recovery →
    recovery.carrier = none ∧ recovery.restart = none
  keeps : ∀ held, session.recovery.bind (·.restart) = some held → held.params.resetFields = false
  begun : ∀ held, session.recovery.bind (·.restart) = some held → held.stage.isOutstanding = true →
    held.params = .resuming (keysInUse ok) ∨ Owes ok held.attempt

variable {ok : Option Session} {first before after session : Session}

theorem retains_attachRecovery (session : Session) (times : RecoveryTimes) :
    Retains none (session.attachRecovery times) where
  knows := by rintro _ ⟨⟩; rfl
  idle := by rintro - _ ⟨⟩; exact ⟨rfl, rfl⟩
  keeps _ found := nomatch found
  begun _ found := nomatch found

theorem Retains.continues (retains : Retains ok before) (continues : Continues before after) : Retains ok after where
  knows := continues.knows retains.knows
  idle unknown latter watched := by
    obtain ⟨former, was, goesOn⟩ := continues latter watched
    obtain ⟨carrier, unbegun⟩ := retains.idle unknown former was
    refine ⟨goesOn.carrier.trans carrier, ?_⟩
    by_contra held
    obtain ⟨restart, found⟩ := Option.ne_none_iff_exists'.mp held
    obtain ⟨begun, begins, -⟩ := goesOn.restart restart found
    rw [unbegun] at begins
    cases begins
  keeps := continues.keeps retains.keeps
  begun held found outstanding := by
    obtain ⟨begun, began, attempt, params, same⟩ := continues.held found
    rw [params, attempt]
    exact retains.begun begun began (same outstanding)

theorem Retains.begins (retains : Retains ok before) {former latter : Recovery} (watched : before.recovery = some former)
    (next : after.recovery = some latter) (begins : former.Begins latter) : Retains ok after := by
  have known := retains.knows former watched
  constructor
  case knows =>
    intro recovery same
    cases next.symm.trans same
    exact begins.keys.trans known
  case idle =>
    intro unknown
    have carried := begins.carried
    rw [(retains.idle unknown former watched).1] at carried
    cases carried
  case keeps =>
    intro held found
    rw [params_of_begins begins next found]
    rfl
  case begun =>
    intro held found _
    rw [params_of_begins begins next found, former.params_eq, known]
    exact .inl rfl

/-- Where a report makes the connection good, recovery learns of it. -/
theorem Hears.settled {late : Session} (hears : Hears before late) (broken : before.status.global ≠ .ok)
    (good : late.status.global = .ok) : ∀ latter, late.recovery = some latter →
      ∃ former carrier, before.recovery = some former ∧ latter = former.recovered carrier before.resumeKeys := by
  rcases hears.recovery with ⟨same, -⟩ | ⟨-, answers⟩
  · exact absurd (same.trans good) broken
  · cases answers with
    | settles _ settled => exact settled
    | goesOn bad _ => exact absurd good bad
    | begins bad _ _ _ _ => exact absurd good bad

/-- The restart that recovery holds when it learns of a good connection is the one that it held before. -/
theorem held_of_settled {late : Session} {held : Restart}
    (settled : ∀ latter, late.recovery = some latter → ∃ former carrier, before.recovery = some former ∧
      latter = former.recovered carrier before.resumeKeys) (found : late.recovery.bind (·.restart) = some held) :
    before.recovery.bind (·.restart) = some held := by
  obtain ⟨latter, watched, holds⟩ := Option.bind_eq_some_iff.mp found
  obtain ⟨former, carrier, was, rfl⟩ := settled latter watched
  rw [was]
  exact holds

/-- A good connection gives recovery the keys in use; a restart that was begun before stays. -/
theorem retains_good (linked : session.resumeKeys.isSome = true) (knows : session.Knows session.resumeKeys)
    (keeps : ∀ held, session.recovery.bind (·.restart) = some held → held.params.resetFields = false) :
    Retains (some session) session where
  knows := knows
  idle unknown := by
    rw [keysInUse, Option.bind_some] at unknown
    rw [unknown] at linked
    cases linked
  keeps := keeps
  begun held found outstanding := .inr ⟨session, held, rfl, found, rfl, outstanding⟩

theorem Retains.report (retains : Retains ok before) (hears : Hears before after)
    (bad : after.status.global = .ok → before.status.global = .ok) : Retains ok after := by
  rcases hears.recovery with ⟨-, continues⟩ | ⟨differs, answers⟩
  · exact retains.continues continues
  · cases answers with
    | goesOn _ continues => exact retains.continues continues
    | settles good _ => exact absurd ((bad good).trans good.symm) differs
    | begins _ _ watched next begins => exact retains.begins watched next begins

theorem Retains.good {late : Session} (retains : Retains ok before) (hears : Hears before late)
    (broken : before.status.global ≠ .ok) (good : late.status.global = .ok) (linked : late.link.pair.isSome = true)
    (drift : Drifts late after) : Retains (some after) after := by
  have keys : after.resumeKeys = late.resumeKeys := congrArg Bearings.keys drift.bearings
  have settled := hears.settled broken good
  apply retains_good
  case linked =>
    rw [keys, resumeKeys, Option.isSome_map]
    exact linked
  case knows =>
    apply drift.continues.knows
    intro latter watched
    obtain ⟨former, carrier, -, rfl⟩ := settled latter watched
    rw [keys, hears.keys]
    rfl
  case keeps => exact drift.continues.keeps fun held found => retains.keeps held (held_of_settled settled found)

theorem Retains.runExpire (retains : Retains ok session) (attempt : Nat) : Retains ok (session.runExpire attempt) := by
  rcases session.runExpire_recovery attempt with continues | ⟨former, latter, watched, -, next, begins⟩
  · exact retains.continues continues
  · exact retains.begins watched next begins

theorem continues_runRestart (session : Session) (attempt : Nat) : Continues session (session.runRestart attempt) := by
  rcases session.runRestart_cases attempt with same | ⟨restart, found, -, restarting⟩
  · rw [same]
    exact .refl session
  · exact (restarting.resumes found).continues

theorem Watched.retains {setUps : Prop} (watched : Watched setUps first ok session) (start : Retains none first) :
    Retains ok session := by
  refine watched.induction start ?moored ?init ?report ?good ?expire ?restart
  case moored => exact fun retains _ continues => retains.continues continues
  case init =>
    intro ok session retains _ params
    exact retains.continues (.of_recovery (session.initiates_init params).recovery)
  case report => exact fun retains hears bad => retains.report hears bad
  case good => exact fun retains hears broken good linked drift => retains.good hears broken good linked drift
  case expire => exact fun retains attempt => retains.runExpire attempt
  case restart => exact fun retains attempt => retains.continues (continues_runRestart _ attempt)

/-- Neither the link nor the restart that recovery holds forgets replicated data. -/
structure IsSparing (session : Session) : Prop where
  link : session.link.resetFields = false
  restart : ∀ held, session.recovery.bind (·.restart) = some held → held.params.resetFields = false

theorem IsSparing.moored (sparing : before.IsSparing) (link : after.link.resetFields = before.link.resetFields)
    (continues : Continues before after) : after.IsSparing where
  link := link.trans sparing.link
  restart := continues.keeps sparing.restart

theorem IsSparing.begins (sparing : before.IsSparing) (link : after.link.resetFields = before.link.resetFields)
    {former latter : Recovery} (next : after.recovery = some latter) (begins : former.Begins latter) :
    after.IsSparing where
  link := link.trans sparing.link
  restart held found := by
    rw [params_of_begins begins next found]
    rfl

theorem IsSparing.hears (sparing : before.IsSparing) (hears : Hears before after) : after.IsSparing := by
  rcases hears.recovery with ⟨-, continues⟩ | ⟨-, answers⟩
  · exact sparing.moored hears.resetFields continues
  · cases answers with
    | goesOn _ continues => exact sparing.moored hears.resetFields continues
    | begins _ _ _ next begins => exact sparing.begins hears.resetFields next begins
    | settles _ settled =>
        refine ⟨hears.resetFields.trans sparing.link, fun held found => ?_⟩
        exact sparing.restart held (held_of_settled settled found)

theorem IsSparing.runExpire (sparing : session.IsSparing) (attempt : Nat) : (session.runExpire attempt).IsSparing := by
  have link := (session.moors_runExpire attempt).resetFields
  rcases session.runExpire_recovery attempt with continues | ⟨former, latter, -, -, next, begins⟩
  · exact sparing.moored link continues
  · exact sparing.begins link next begins

theorem IsSparing.runRestart (sparing : session.IsSparing) (attempt : Nat) : (session.runRestart attempt).IsSparing := by
  rcases session.runRestart_cases attempt with same | ⟨restart, found, -, restarting⟩
  · rw [same]
    exact sparing
  · have resumes := restarting.resumes found
    refine ⟨?_, resumes.continues.keeps sparing.restart⟩
    rcases resumes.link with ⟨moors, -⟩ | ⟨-, setUp⟩
    · exact moors.resetFields.trans sparing.link
    · exact setUp.resetFields.trans (sparing.restart restart found)

/-- As long as the application does not set the session up, no channel that opens forgets replicated data. -/
theorem Watched.isSparing (watched : Watched False first ok session) (sparing : first.IsSparing) :
    session.IsSparing := by
  refine watched.induction (motive := fun _ session => session.IsSparing) sparing
    ?moored ?init ?report ?good ?expire ?restart
  case moored => exact fun sparing moors continues => sparing.moored moors.resetFields continues
  case init => exact fun _ never _ => never.elim
  case report => exact fun sparing hears _ => sparing.hears hears
  case good =>
    exact fun sparing hears _ _ _ drift => (sparing.hears hears).moored drift.moors.resetFields drift.continues
  case expire => exact fun sparing attempt => sparing.runExpire attempt
  case restart => exact fun sparing attempt => sparing.runRestart attempt

/-- Recovery knows no keys but those of one pair, or will learn of that pair before it restarts anything. -/
structure IsLoyal (pair : KeyPair) (session : Session) : Prop where
  linked : session.link.pair = some pair
  restart : ∀ held, session.recovery.bind (·.restart) = some held → held.stage.isOutstanding = true →
    held.params.pair = some pair
  earned : ∀ recovery, session.recovery = some recovery → recovery.carrier.isSome = true →
    session.status.global = .ok → session.status.wasConnected = true
  knows : ∀ recovery, session.recovery = some recovery → recovery.carrier.isSome = true →
    recovery.timer.isSome = true ∨ session.status.wasConnected = true → recovery.keys.map (·.pair) = some pair

variable {pair : KeyPair}

/-- A connection is good, or was, only where it was before. -/
structure Dims (before after : Session) : Prop where
  good : after.status.global = .ok → after.status.wasConnected = true ∨
    (before.status.global = .ok ∧ after.status.wasConnected = before.status.wasConnected)
  connected : after.status.wasConnected = true → before.status.wasConnected = true ∨ before.status.global = .ok

/-- Where a connection was good because the task was connected, it still is for that reason. -/
theorem Dims.earned (dims : Dims before after)
    (earned : before.status.global = .ok → before.status.wasConnected = true) (good : after.status.global = .ok) :
    after.status.wasConnected = true := by
  rcases dims.good good with connected | ⟨wasGood, wasConnected⟩
  · exact connected
  · exact wasConnected.trans (earned wasGood)

theorem Moors.dims (moors : Moors before after) : Dims before after := by
  rcases moors.status with ⟨global, wasConnected⟩ | ⟨global, wasConnected⟩
  · exact ⟨fun good => .inr ⟨global.symm.trans good, wasConnected⟩,
      fun connected => .inl (wasConnected.symm.trans connected)⟩
  · refine ⟨fun good => ?_, fun connected => ?_⟩
    · rw [global] at good
      cases good
    · rw [wasConnected] at connected
      cases connected

theorem Hears.dims (hears : Hears before after) (bad : after.status.global = .ok → before.status.global = .ok) :
    Dims before after :=
  ⟨hears.earned, fun connected => (hears.connected connected).imp_right bad⟩

theorem IsLoyal.continues (loyal : before.IsLoyal pair) (same : after.link.pair = before.link.pair)
    (dims : Dims before after) (continues : Continues before after) : after.IsLoyal pair where
  linked := same.trans loyal.linked
  restart := continues.bound loyal.restart
  earned latter watched carried good := by
    obtain ⟨former, was, goesOn⟩ := continues latter watched
    rw [goesOn.carrier] at carried
    exact dims.earned (loyal.earned former was carried) good
  knows latter watched carried cause := by
    obtain ⟨former, was, goesOn⟩ := continues latter watched
    rw [goesOn.carrier] at carried
    rw [goesOn.keys]
    -- the task was connected before, or the connection was good, and then it was as well
    refine loyal.knows former was carried (cause.imp goesOn.timer fun connected => ?_)
    exact (dims.connected connected).elim id (loyal.earned former was carried)

/-- A restart is begun only where a connection was good with the keys that recovery knows. -/
theorem IsLoyal.begins (loyal : before.IsLoyal pair) (same : after.link.pair = before.link.pair)
    (dims : Dims before after) {former latter : Recovery} (watched : before.recovery = some former)
    (cause : former.timer.isSome = true ∨ before.status.wasConnected = true)
    (next : after.recovery = some latter) (begins : former.Begins latter) : after.IsLoyal pair := by
  have known := loyal.knows former watched begins.carried cause
  constructor
  case linked => exact same.trans loyal.linked
  case restart =>
    intro held found _
    rw [params_of_begins begins next found]
    exact known
  case earned => exact fun _ _ _ good => dims.earned (loyal.earned former watched begins.carried) good
  case knows =>
    intro recovery holds _ _
    cases next.symm.trans holds
    rw [begins.keys]
    exact known

theorem IsLoyal.report (loyal : before.IsLoyal pair) (hears : Hears before after)
    (bad : after.status.global = .ok → before.status.global = .ok) : after.IsLoyal pair := by
  have dims := hears.dims bad
  rcases hears.recovery with ⟨-, continues⟩ | ⟨differs, answers⟩
  · exact loyal.continues hears.pair dims continues
  · cases answers with
    | goesOn _ continues => exact loyal.continues hears.pair dims continues
    | settles good _ => exact absurd ((bad good).trans good.symm) differs
    | begins broken lost watched next begins =>
        have connected := (hears.connected lost).resolve_right broken
        exact loyal.begins hears.pair dims watched (.inr connected) next begins

theorem IsLoyal.good {late : Session} (loyal : before.IsLoyal pair) (hears : Hears before late)
    (broken : before.status.global ≠ .ok) (good : late.status.global = .ok) : late.IsLoyal pair := by
  have settled := hears.settled broken good
  have connected : late.status.wasConnected = true := (hears.earned good).elim id fun same => absurd same.1 broken
  constructor
  case linked => exact hears.pair.trans loyal.linked
  case restart => exact fun held found outstanding => loyal.restart held (held_of_settled settled found) outstanding
  case earned => exact fun _ _ _ _ => connected
  case knows =>
    -- whatever recovery knew before, it takes over the keys of the link
    intro latter watched _ _
    obtain ⟨former, carrier, was, rfl⟩ := settled latter watched
    dsimp only [Recovery.recovered]
    rw [resumeKeys, Option.map_map, loyal.linked]
    rfl

theorem IsLoyal.runExpire (loyal : session.IsLoyal pair) (attempt : Nat) : (session.runExpire attempt).IsLoyal pair := by
  have moors := session.moors_runExpire attempt
  rcases session.runExpire_recovery attempt with continues | ⟨former, latter, watched, armed, next, begins⟩
  · exact loyal.continues moors.pair moors.dims continues
  · exact loyal.begins moors.pair moors.dims watched (.inl armed) next begins

theorem IsSetUp.isLoyal {params : InitParams} (setUp : after.IsSetUp params) (given : after.link.pair = some pair)
    (continues : Continues before after)
    (restart : ∀ held, before.recovery.bind (·.restart) = some held → held.stage.isOutstanding = true →
      held.params.pair = some pair)
    (knows : ∀ recovery, before.recovery = some recovery → recovery.carrier.isSome = true →
      recovery.timer.isSome = true → recovery.keys.map (·.pair) = some pair) : after.IsLoyal pair where
  linked := given
  restart := continues.bound restart
  earned _ _ _ good := by
    rw [setUp.global] at good
    cases good
  knows latter watched carried cause := by
    obtain ⟨former, was, goesOn⟩ := continues latter watched
    rw [goesOn.carrier] at carried
    rw [goesOn.keys]
    refine knows former was carried (cause.elim goesOn.timer fun connected => ?_)
    rw [setUp.wasConnected] at connected
    cases connected

theorem IsLoyal.runRestart (loyal : session.IsLoyal pair) (attempt : Nat) : (session.runRestart attempt).IsLoyal pair := by
  rcases session.runRestart_cases attempt with same | ⟨restart, found, -, restarting⟩
  · rw [same]
    exact loyal
  · have resumes := restarting.resumes found
    rcases resumes.link with ⟨moors, -⟩ | ⟨due, setUp⟩
    · exact loyal.continues moors.pair moors.dims resumes.continues
    · have given := setUp.pair pair (loyal.restart restart found due)
      exact setUp.isLoyal given resumes.continues loyal.restart
        fun recovery watched carried armed => loyal.knows recovery watched carried (.inl armed)

/-- As long as the application does not set the session up, its key pair stays. -/
theorem Watched.isLoyal {setUps : Prop} (watched : Watched setUps first ok session) (never : ¬ setUps)
    (loyal : first.IsLoyal pair) : session.IsLoyal pair := by
  refine watched.induction (motive := fun _ session => session.IsLoyal pair) loyal
    ?moored ?init ?report ?good ?expire ?restart
  case moored => exact fun loyal moors continues => loyal.continues moors.pair moors.dims continues
  case init => exact fun _ may _ => absurd may never
  case report => exact fun loyal hears bad => loyal.report hears bad
  case good =>
    intro ok session late after loyal hears broken good linked drift
    exact (loyal.good hears broken good).continues drift.moors.pair drift.moors.dims drift.continues
  case expire => exact fun loyal attempt => loyal.runExpire attempt
  case restart => exact fun loyal attempt => loyal.runRestart attempt

theorem isLoyal_attachRecovery {times : RecoveryTimes} (linked : session.link.pair = some pair) :
    (session.attachRecovery times).IsLoyal pair where
  linked := linked
  restart _ found := nomatch found
  earned := by rintro _ ⟨⟩ ⟨⟩
  knows := by rintro _ ⟨⟩ ⟨⟩

/-- Where recovery rests when the session is set up, nothing goes on with the keys of an earlier connection. -/
theorem isLoyal_init (unarmed : session.IsUnarmed) (calm : session.IsCalm) {params : InitParams}
    (succeeded : session.init params = (after, .ok ())) (linked : after.link.pair = some pair) : after.IsLoyal pair := by
  have recovery := (session.initiates_init params).recovery
  rw [succeeded] at recovery
  apply (isSetUp_of_init succeeded).isLoyal linked (.of_recovery recovery)
  case restart =>
    intro held found outstanding
    rw [calm.isOutstanding_eq_false found] at outstanding
    cases outstanding
  case knows =>
    intro recovery watched _ armed
    rw [unarmed recovery watched] at armed
    cases armed

end Session

end RelayClient
