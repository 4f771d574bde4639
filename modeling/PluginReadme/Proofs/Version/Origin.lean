import PluginReadme.Proofs.Project.RunSpec
import PluginReadme.Proofs.Version.Finding
import PluginReadme.Proofs.Version.FirstRewritten
import PluginReadme.Proofs.Version.UpToDate

/-! Where the version of a document stands, and where a run takes it. Whatever a label matches, the
number behind it is found whole, in a declaration at the start of a line; so it is a version number
that a run gives to its files, and nothing else. -/
namespace PluginReadme.Origin
open Project RunSpec FileSync
open Version (FileRole find extract foundAt isDigit lineLabel lineStarts rewriteAll)
open Numeral Plain Finding FirstRewritten

variable {label source version text front back key : Text} {pattern : Pattern}
  {cursor start stop : Cursor} {disk middle after : Disk}

/-! ## The declaration that is found -/

private theorem mem_onwards (before : Text)
    (member : cursor ∈ Cursor.onwards before.length before.getLast? text) :
    ∃ front back, text = front ++ back ∧ cursor = placed (before ++ front) back := by
  induction text generalizing before with
  | nil =>
    obtain rfl := List.mem_singleton.mp member
    exact ⟨[], [], rfl, by simp [placed]⟩
  | cons c rest ih =>
    rcases List.mem_cons.mp member with rfl | member
    · exact ⟨[], c :: rest, rfl, by simp [placed]⟩
    · have further :
          cursor ∈ Cursor.onwards (before ++ [c]).length (before ++ [c]).getLast? rest := by
        simpa using member
      obtain ⟨front, back, rfl, rfl⟩ := ih (before ++ [c]) further
      exact ⟨c :: front, back, rfl, by simp⟩

theorem mem_lineStarts (member : cursor ∈ lineStarts source) :
    ∃ front back, source = front ++ back ∧ cursor = placed front back ∧ StartsLine front := by
  obtain ⟨listed, starts⟩ := List.mem_filter.mp member
  obtain ⟨front, back, split, rfl⟩ := mem_onwards [] listed
  rw [Option.all_eq_true] at starts
  exact ⟨front, back, split, rfl, fun c last => by simpa using starts c last⟩

/-- Trees that come from one another by giving files a version, one write after the other. -/
inductive Versioned (key version : Text) : Disk → Disk → Prop where
  | done {disk : Disk} : Versioned key version disk disk
  | file {disk after : Disk} {place : Place} {content : Text} (role : FileRole)
      (read : disk.entry? place = some (.file content))
      (onward : Versioned key version
        (disk.set place (.file (rewriteAll (role.rules key) version content))) after) :
      Versioned key version disk after

theorem Versioned.trans (first : Versioned key version disk middle)
    (second : Versioned key version middle after) : Versioned key version disk after := by
  induction first with
  | done => exact second
  | file role read onward ih => exact .file role read (ih second)

end PluginReadme.Origin
