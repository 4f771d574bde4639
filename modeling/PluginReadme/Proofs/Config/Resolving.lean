import PluginReadme.Config.Basic
import Mathlib.Data.List.Basic

/-! Configurations whose paths are taken from directories. To take the paths from one directory and
then from another is to take them from the one within the other, however the two are written, so
that paths which have become absolute stay as they are. -/
namespace PluginReadme.Resolving
open PluginReadme.Path

variable {directory path front back : Text}

/-! ## Directories -/

/-- A directory as it stands in front of a path: closed by a slash, unless it is empty. -/
def closed (directory : Text) : Text :=
  if directory.isEmpty || directory.getLast? == some '/' then directory else directory ++ ['/']

theorem join_absolute (absolute : isAbsolute path) (directory : Text) :
    join directory path = path :=
  if_pos absolute

theorem join_relative (relative : ¬ isAbsolute path) (directory : Text) :
    join directory path = closed directory ++ path := by
  rw [join, if_neg relative, closed]
  split
  · rfl
  · rw [List.append_assoc, List.singleton_append]

theorem isAbsolute_append (filled : front ≠ []) (back : Text) :
    isAbsolute (front ++ back) = isAbsolute front := by
  rw [isAbsolute, isAbsolute, List.head?_append_of_ne_nil front filled]

theorem closed_front (directory : Text) : directory <+: closed directory := by
  unfold closed
  split
  · exact List.prefix_refl _
  · exact List.prefix_append ..

/-- A directory is closed once. -/
theorem closed_closed (directory : Text) : closed (closed directory) = closed directory := by
  by_cases done : directory.isEmpty || directory.getLast? == some '/'
  · have same : closed directory = directory := if_pos done
    rw [same, same]
  · have added : closed directory = directory ++ ['/'] := if_neg done
    rw [added, closed, if_pos (by simp)]

/-- Whether a directory is closed shows at its end. -/
theorem closed_append (filled : back ≠ []) (front : Text) :
    closed (front ++ back) = front ++ closed back := by
  have last : (front ++ back).getLast? = back.getLast? :=
    List.getLast?_append_of_ne_nil front filled
  have longer : front ++ back ≠ [] := List.append_ne_nil_of_right_ne_nil front filled
  rw [closed, closed, last, List.isEmpty_eq_false_iff.mpr filled,
    List.isEmpty_eq_false_iff.mpr longer]
  split
  · rfl
  · exact List.append_assoc ..

theorem closed_absolute (filled : directory ≠ []) (path : Text) :
    isAbsolute (closed directory ++ path) = isAbsolute directory := by
  obtain ⟨slash, whole⟩ := closed_front directory
  rw [← whole, List.append_assoc, isAbsolute_append filled]

/-! ## Directories within directories -/

/-- A path is taken from a directory within another one in two steps. -/
theorem join_join (outer inner path : Text) :
    join outer (join inner path) = join (join outer inner) path := by
  by_cases absolute : isAbsolute path
  · rw [join_absolute absolute inner, join_absolute absolute outer, join_absolute absolute]
  rw [join_relative absolute, join_relative absolute]
  by_cases filled : inner = []
  · have relative : ¬ isAbsolute [] := nofun
    have bare : closed [] = [] := rfl
    rw [filled, bare, List.nil_append, join_relative absolute, join_relative relative,
      List.append_nil, closed_closed]
  · by_cases rooted : isAbsolute inner
    · rw [join_absolute rooted, join_absolute (by rw [closed_absolute filled]; exact rooted)]
    · rw [join_relative rooted, join_relative (by rw [closed_absolute filled]; exact rooted),
        closed_append filled, List.append_assoc]

/-- What is taken from the root, or from below it, is absolute. -/
theorem isAbsolute_join (rooted : isAbsolute directory) (path : Text) :
    isAbsolute (join directory path) := by
  have filled : directory ≠ [] := by
    rintro rfl
    cases rooted
  by_cases absolute : isAbsolute path
  · rwa [join_absolute absolute]
  · rwa [join_relative absolute, closed_absolute filled]

/-! ## Configurations -/

/-- The paths of a configuration. -/
def paths (config : Config) : List Text :=
  [config.readmeMd, config.changelogMd, config.readmeTxt] ++ config.styleFiles ++ config.phpFiles

theorem paths_resolve (root : Text) (config : Config) :
    paths (config.resolve root) = (paths config).map (join root) := by
  simp [paths, Config.resolve]

theorem resolve_resolve (config : Config) (inner outer : Text) :
    (config.resolve inner).resolve outer = config.resolve (join outer inner) := by
  have both : join outer ∘ join inner = join (join outer inner) :=
    funext (join_join outer inner)
  simp only [Config.resolve, join_join, List.map_map, both]

/-- To take the paths of a configuration from a directory and then from another is to take them from
the one within the other; the labels are not touched. From an absolute directory this makes all
paths absolute, and once is enough. -/
theorem resolving_composes (config : Config) (inner outer : Text) :
    (config.resolve inner).resolve outer = config.resolve (join outer inner) ∧
    (config.resolve inner).stableTag = config.stableTag ∧
    (config.resolve inner).versionKey = config.versionKey ∧
    (isAbsolute outer → (config.resolve outer).resolve outer = config.resolve outer ∧
      ∀ path ∈ paths (config.resolve outer), isAbsolute path) := by
  refine ⟨resolve_resolve config inner outer, rfl, rfl, fun rooted => ⟨?_, fun path member => ?_⟩⟩
  · rw [resolve_resolve, join_absolute rooted]
  · rw [paths_resolve] at member
    obtain ⟨path, -, rfl⟩ := List.mem_map.mp member
    exact isAbsolute_join rooted path

/-- A configuration with an empty path, an absolute one, and one that ends in a slash. -/
private def scattered : Config :=
  { Config.standard with readmeMd := [], styleFiles := ["/b.css".toList, "c/".toList] }

theorem absolute_directory_is_enough :
    isAbsolute "/p".toList ∧
      (scattered.resolve "a/".toList).resolve "/p".toList = scattered.resolve "/p/a/".toList ∧
      (scattered.resolve "/p".toList).resolve "/p".toList = scattered.resolve "/p".toList ∧
      paths (scattered.resolve "/p".toList) = ["/p/".toList, "/p/CHANGELOG.md".toList,
        "/p/readme.txt".toList, "/b.css".toList, "/p/c/".toList] := by
  obtain ⟨composed, -, -, absolute⟩ := resolving_composes scattered "a/".toList "/p".toList
  exact ⟨rfl, composed, (absolute rfl).1, by decide +kernel⟩

end PluginReadme.Resolving
