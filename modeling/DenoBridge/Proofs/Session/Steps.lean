import DenoBridge.Doctor
import DenoBridge.Proofs.Settings.Fields
import DenoBridge.Proofs.Toolchain.Calls

/-! # Steps of a session

    A scene is a session with the machine that it works on.  A scene changes
    step by step: settings are changed or a change of them fails, variables of
    the environment change, the toolchain is asked or made to work, and
    anything at all can happen outside.  A successful assignment changes at
    most the assigned field; so every step keeps the override of the cache root
    unless it is a successful change of the override itself
    (`Scene.override_perform`), and so does every run of such steps
    (`Scene.Runs.override_eq`).
-/

namespace DenoBridge

/-! ## Section 1: Scenes -/

/-- A session and the machine that it works on. -/
structure Scene where
  session : Session
  machine : Machine

namespace Scene

/-- What can happen to a scene.  Questions about places (the cache root, the
    file of a module, whether a path is in the cache, the executable) are
    functions of a scene and change nothing. -/
inductive Action where
  | setCacheRoot (path : Option String)
  /-- A value is assigned to a field; the mode is changed in this way. -/
  | assign (a : Settings.Assignment)
  /-- A variable is set, or without a value unset, in the environment that the
      session looks its cache root up in. -/
  | setVariable (name : String) (value : Option String)
  /-- The toolchain is asked for something, or made to format a text. -/
  | ask (call : Toolchain.Call)
  | synchronize (mode : Option Bool)
  | check
  /-- Files change, or the behaviour of the programs, or the directory. -/
  | outside (files : FileSystem) (directory : Place)
      (child : Launch → FileSystem → ChildResult × FileSystem)

/-- The scene with another session, if there is one. -/
def withSession (scene : Scene) : Option Session → Scene
  | some session => { scene with session := session }
  | none => scene

/-- The environment after a variable was set or unset. -/
def setOrUnset (name : String) (value : Option String) (env : Environment) : Environment :=
  match value with
  | some value => env.set name value
  | none => env.unset name

/-- The scene after an action.  What fails leaves the session as it was. -/
def perform (scene : Scene) : Action → Scene
  | .setCacheRoot path => scene.withSession (scene.session.setCacheRoot path).toOption
  | .assign a => scene.withSession (scene.session.assign a).toOption
  | .setVariable name value =>
    match scene.session.environment with
    | some env =>
      { scene with session := { scene.session with environment := some (setOrUnset name value env) } }
    | none =>
      { scene with machine :=
          { scene.machine with environment := setOrUnset name value scene.machine.environment } }
  | .ask call => { scene with machine := (call.ask scene.session.settings scene.machine).2 }
  | .synchronize mode => { scene with machine := (scene.session.synchronize mode scene.machine).2 }
  | .check => { scene with machine := (Doctor.checks scene.session scene.machine).2 }
  | .outside files directory child =>
    { scene with machine :=
        { scene.machine with files := files, directory := directory, child := child } }

/-- Is the action a change of the override that succeeds? -/
def ChangesOverride (scene : Scene) : Action → Prop
  | .setCacheRoot path => ∃ session, scene.session.setCacheRoot path = .ok session
  | .assign a => a.name = Settings.Field.cacheRootOverride.name ∧
      ∃ session, scene.session.assign a = .ok session
  | _ => False

/-- The action is no successful change of the override. -/
def LeavesOverride (scene : Scene) (action : Action) : Prop :=
  ¬ scene.ChangesOverride action

/-! ## Section 2: One step -/

variable {scene start : Scene} {action : Action}

@[simp]
theorem withSession_none (scene : Scene) : scene.withSession none = scene := rfl

@[simp]
theorem session_withSession (scene : Scene) (session : Session) :
    (scene.withSession (some session)).session = session := rfl

/-- Assigning to another field keeps the override. -/
theorem override_of_assign {s s' : Session} {a : Settings.Assignment}
    (hname : a.name ≠ Settings.Field.cacheRootOverride.name) (h : s.assign a = .ok s') :
    s'.settings.cacheRootOverride = s.settings.cacheRootOverride := by
  obtain ⟨settings, hassign, rfl⟩ := exists_of_map_ok h
  rcases Settings.changesOnly_of_assign hassign with rfl | ⟨field, hfield, hchange⟩
  · rfl
  · apply hchange.cacheRootOverride
    rintro rfl
    exact hname hfield.symm

/-- Only a successful change of the override changes it. -/
theorem override_perform (h : scene.LeavesOverride action) :
    (scene.perform action).session.settings.cacheRootOverride =
      scene.session.settings.cacheRootOverride := by
  cases action with
  | setCacheRoot path =>
    cases hset : scene.session.setCacheRoot path with
    | ok session => exact absurd ⟨session, hset⟩ h
    | error e => simp [perform, hset, Except.toOption]
  | assign a =>
    cases hassign : scene.session.assign a with
    | error e => simp [perform, hassign, Except.toOption]
    | ok session =>
      -- An assignment to the override itself would have been a successful change of it.
      have hname : a.name ≠ Settings.Field.cacheRootOverride.name := by
        intro hname
        exact h ⟨hname, session, hassign⟩
      simp only [perform, hassign, Except.toOption, session_withSession]
      exact override_of_assign hname hassign
  | setVariable name value =>
    -- The variable is kept in the session or on the machine, never in the settings.
    simp only [perform]
    split <;> rfl
  | ask call => rfl
  | synchronize mode => rfl
  | check => rfl
  | outside files directory child => rfl

/-! ## Section 3: Runs -/

/-- The scenes that actions of an allowed kind lead to. -/
inductive Runs (allowed : Scene → Action → Prop) (start : Scene) : Scene → Prop where
  | start : Runs allowed start start
  | step {scene : Scene} (action : Action) : Runs allowed start scene → allowed scene action →
      Runs allowed start (scene.perform action)

/-- What every allowed action keeps, a run keeps. -/
theorem Runs.keeps {allowed : Scene → Action → Prop} {P : Scene → Prop}
    (hkept : ∀ scene action, allowed scene action → P scene → P (scene.perform action))
    (hstart : P start) (hrun : Runs allowed start scene) : P scene := by
  induction hrun with
  | start => exact hstart
  | step action _ hallowed ih => exact hkept _ action hallowed ih

/-- Without a successful change of it the override stays. -/
theorem Runs.override_eq (h : Runs LeavesOverride start scene) :
    scene.session.settings.cacheRootOverride = start.session.settings.cacheRootOverride := by
  apply h.keeps (P := fun scene =>
    scene.session.settings.cacheRootOverride = start.session.settings.cacheRootOverride)
  · intro scene action hallowed hkept
    rw [override_perform hallowed, hkept]
  · rfl

end Scene

end DenoBridge
