import ScriptHost.World.Basic

/-!
# Scenes

A script runs in a scene: its own session and the world around it. A step changes both and may fail,
and a failure keeps what was changed before it.
-/

namespace ScriptHost.Script

/-- The session of a script and the world around it. -/
structure Scene where
  session : Session
  world : World

/-- Reads and changes a scene, and may fail. -/
abbrev Step := ExceptT Fault (StateM Scene)

namespace Step

variable {α : Type}

/-- Takes a step: its outcome and the scene after it. -/
def take (s : Step α) (scene : Scene) : Except Fault α × Scene :=
  StateT.run (ExceptT.run s) scene

/-- A step that only touches the world. -/
def act (a : Act α) : Step α := do
  let scene ← get
  let (outcome, world) := a.carryOut scene.world
  set { scene with world := world }
  match outcome with
  | .ok v => return v
  | .error e => throw e

/-- A step that needs the session as it is, and only touches the world. -/
def consult (f : Session → Act α) : Step α := do
  act (f (← get).session)

/-- Changes the session. -/
def modifySession (f : Session → Session) : Step Unit :=
  modify fun scene => { scene with session := f scene.session }

/-- Goes on with `handler` after a failure, unless the script is being left. -/
def recover (s : Step α) (handler : Fault → Step α) : Step α :=
  tryCatch s fun e => if e.isExit then throw e else handler e

end Step

end ScriptHost.Script
