import Girasol.Foundation.Watched
import Girasol.Settings

/-!
# The configuration watcher

`run_config_watcher` reloads the settings after the file has settled.  A file
that cannot be read, parsed or validated leaves the settings in force.
-/

namespace Girasol

open Foundation

variable {p : Platform}

def notifyCapacity : Nat := 10

section

variable (p : Platform) (fromFile : String → Except String Settings)

/-- The settings that a content of the file puts in force. -/
def loadValid (content : String) : Option (ValidSettings p) :=
  match fromFile content with
  | .error _ => none
  | .ok cfg => if hvalid : cfg.validate p = .ok () then some ⟨cfg, hvalid⟩ else none

def reloadSettings (content : String) (settings : ValidSettings p) : ValidSettings p :=
  (loadValid p fromFile content).getD settings

def watcherStep : Watched String (ValidSettings p) → WatchEvent String →
    Option (Watched String (ValidSettings p)) :=
  Watched.step notifyCapacity (reloadSettings p fromFile)

end

private theorem foldl_reloadSettings (fromFile : String → Except String Settings)
    (contents : List String) (settings : ValidSettings p) :
    contents.foldl (fun state content => reloadSettings p fromFile content state) settings =
        settings ∨
      ∃ content ∈ contents, loadValid p fromFile content =
        some (contents.foldl (fun state content => reloadSettings p fromFile content state)
          settings) := by
  induction contents generalizing settings with
  | nil => exact .inl rfl
  | cons content rest ih =>
      rw [List.foldl_cons]
      rcases ih (reloadSettings p fromFile content settings) with hsame | ⟨later, hmem, hload⟩
      · rw [hsame]
        cases hload : loadValid p fromFile content with
        | none => exact .inl (by rw [reloadSettings, hload]; rfl)
        | some cfg =>
            refine .inr ⟨content, List.mem_cons_self, ?_⟩
            rw [hload, reloadSettings, hload]
            rfl
      · exact .inr ⟨later, List.mem_cons_of_mem content hmem, hload⟩

def plainFile (content : String) : Except String Settings :=
  if content = "valid" then .ok .plain else .error "expected an equals, found eof"

def twoEdits : List (WatchEvent String) :=
  [.change "", .deliver, .receive, .settle, .read, .change "valid", .act, .deliver, .receive,
    .settle, .read, .act]

end Girasol
