import ProcessWatch.Settings

/-!
# Preferences

What somebody asks the settings to be. Anything may be left open, and preferences from several
places are laid over each other: each place decides what those before it left open, and the defaults
decide the rest.
-/

namespace ProcessWatch

/-- The settings that somebody asks for. -/
structure Preferences where
  interval : Option UInt64
  capacity : Option UInt64
  keepDeadFor : Option UInt32
  processKeys : Option (List String)
  fileKeys : Option (List String)
  treeKeys : Option (List String)
deriving Repr, DecidableEq

/-- Why preferences cannot be met. -/
inductive SettingsError where
  | zeroInterval
  | zeroCapacity
deriving Repr, DecidableEq

namespace SettingsError

def message : SettingsError → String
  | zeroInterval => "The poll interval must be greater than 0 ms"
  | zeroCapacity => "The history capacity must be greater than 0"

end SettingsError

namespace Preferences

def none : Preferences := ⟨.none, .none, .none, .none, .none, .none⟩

/-- Preferences with others for what they leave open. -/
def orElse (first second : Preferences) : Preferences where
  interval := first.interval <|> second.interval
  capacity := first.capacity <|> second.capacity
  keepDeadFor := first.keepDeadFor <|> second.keepDeadFor
  processKeys := first.processKeys <|> second.processKeys
  fileKeys := first.fileKeys <|> second.fileKeys
  treeKeys := first.treeKeys <|> second.treeKeys

/-- The interval that is asked for, which takes time. -/
def chosenInterval (p : Preferences) : Except SettingsError UInt64 :=
  match p.interval with
  | .none => .ok Settings.default.interval
  | some interval => if interval = 0 then .error .zeroInterval else .ok interval

/-- The capacity that is asked for, which leaves room. -/
def chosenCapacity (p : Preferences) : Except SettingsError Capacity :=
  match p.capacity with
  | .none => .ok Settings.default.capacity
  | some count =>
    if h : 0 < count.toNat then .ok ⟨count.toNat, h⟩ else .error .zeroCapacity

def settings (p : Preferences) : Except SettingsError Settings := do
  let interval ← p.chosenInterval
  let capacity ← p.chosenCapacity
  let default := Settings.default
  return {
    interval
    capacity
    keepDeadFor := p.keepDeadFor.getD default.keepDeadFor
    processKeys := p.processKeys.getD default.processKeys
    fileKeys := p.fileKeys.getD default.fileKeys
    treeKeys := p.treeKeys.getD default.treeKeys }

end Preferences

end ProcessWatch
