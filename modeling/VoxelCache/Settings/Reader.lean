import VoxelCache.Journal
import VoxelCache.Settings
import VoxelCache.Toml.Document

/-!
# Settings files

A settings file is a TOML document with a key for each setting.  Missing keys
leave the standard value and other keys are passed over.  An integer also stands
for a floating-point number, but not the other way round.
-/

namespace VoxelCache

section SettingsReader

namespace Settings

section Fields

/-- An unsigned integer below a bound. -/
def unsigned? (bound : Nat) : Toml.Item → Option Nat
  | .integer n => if 0 ≤ n ∧ n < bound then some n.toNat else none
  | _ => none

/-- An unsigned integer of 32 bits. -/
def word? : Toml.Item → Option Nat :=
  unsigned? 4294967296

/-- An unsigned integer of 64 bits. -/
def longWord? : Toml.Item → Option Nat :=
  unsigned? 18446744073709551616

def boolean? : Toml.Item → Option Bool
  | .boolean value => some value
  | _ => none

def float? : Toml.Item → Option Float
  | .float x => some x
  | .integer n => some (Float.ofInt n)
  | _ => none

/-- An array that begins with three extents. -/
def extent? : Toml.Item → Option (Vec3 Nat)
  | .array (x :: y :: z :: _) =>
      (word? x).bind fun x => (word? y).bind fun y => (word? z).map fun z => ⟨x, y, z⟩
  | _ => none

def isEmptyItem : Toml.Item → Bool
  | .array items => items.isEmpty
  | .inline _ entries => entries.isEmpty
  | .table _ entries => entries.isEmpty
  | _ => false

/-- The key that alone makes up a table and has nothing in it. -/
def soleKey? : Toml.Entries → Option String
  | [(key, item)] => if isEmptyItem item then some key else none
  | _ => none

/-- A strategy by its name, or by a table with nothing but its name. -/
def strategy? : Toml.Item → Option LoadingStrategy
  | .text name => LoadingStrategy.ofKey? name
  | .inline _ entries => (soleKey? entries).bind LoadingStrategy.ofKey?
  | .table _ entries => (soleKey? entries).bind LoadingStrategy.ofKey?
  | _ => none

/-- An item that may be missing. -/
def orStandard {α : Type} (read : Toml.Item → Option α) (standard : α) :
    Option Toml.Item → Option α
  | some item => read item
  | none => some standard

/-- The debugging settings of items that may be missing. -/
def debuggingOf (visualize enforced : Option Toml.Item) : Option Debugging :=
  (orStandard boolean? false visualize).bind fun visualize =>
    (orStandard (fun item => (word? item).map some) none enforced).map fun enforced =>
      ⟨visualize, enforced⟩

/-- The debugging settings of a table. -/
def debuggingEntries? (entries : Toml.Entries) : Option Debugging :=
  debuggingOf (entries.find? "visualize_buckets_on_gpu") (entries.find? "enforced_zoom_diff")

/-- Debugging settings by key, or in order; a date stands for no entries. -/
def debugging? : Toml.Item → Option Debugging
  | .inline _ entries => debuggingEntries? entries
  | .table _ entries => debuggingEntries? entries
  | .array items => debuggingOf items[0]? items[1]?
  | .dateTime => some .standard
  | _ => none

end Fields

/-- The settings that a document gives. -/
def ofEntries? (entries : Toml.Entries) : Option Settings := do
  let width ← orStandard word? standard.lookUpWidth (entries.find? "look_up_texture_width")
  let space ←
    orStandard extent? standard.addressSpace (entries.find? "address_space_dimensions")
  let millis ←
    orStandard longWord? standard.commitMillis (entries.find? "max_commit_time_ms")
  let strategy ← orStandard strategy? standard.strategy (entries.find? "loading_strategy")
  let capacity ←
    orStandard word? standard.requiredCapacity (entries.find? "required_bucket_capacity")
  let radius ← orStandard float? standard.capRadius (entries.find? "sphere_cap_radius")
  let debugging ← orStandard debugging? standard.debugging (entries.find? "debugging")
  return {
    lookUpWidth := width
    addressSpace := space
    commitMillis := millis
    strategy := strategy
    requiredCapacity := capacity
    capRadius := radius
    debugging := debugging }

/-- Settings that a viewer can run with, from the text of a file. -/
def ofText (text : String) : Except Fault Settings :=
  match (Toml.parse? text).bind ofEntries? with
  | some settings => settings.check
  | none => .error .settingsText

/-- The text of a file that was found. -/
def decode (content : ByteArray) : Except FileFault String :=
  match String.fromUTF8? content with
  | some text => .ok text
  | none => .error .notUtf8

/-- Settings from a file, given by its path and what opening it brought. -/
def ofFile (path : String) (content : Except FileFault ByteArray) :
    Except Fault Settings × Journal :=
  match content.bind decode with
  | .error cause => (.error (.file path cause), [])
  | .ok text =>
      match ofText text with
      | .error fault => (.error fault, [])
      | .ok settings =>
          (.ok settings,
            [⟨.info, "[config::load] Loaded streaming config from " ++ path ++ " (" ++
              settings.strategy.title ++ s!", capacity {settings.requiredCapacity})"⟩])

end Settings

end SettingsReader

end VoxelCache
