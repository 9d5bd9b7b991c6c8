import Std.Data.String.ToInt
import Glasshouse.Store.Path

/-!
# Document paths

The two sorts of documents never share a path, whatever the device ids contain: a telemetry path
ends with a digit and a state path with a letter. And a path tells the device and the second or
kind, since what follows the last slash has none of its own.
-/

namespace Glasshouse.Store

open Status

/-- A number in text ends with a digit. -/
theorem toString_ends_with_digit (n : Int) :
    ∃ init digit, (toString n).toList = init ++ [digit] ∧ digit.isDigit = true := by
  have hnat (m : Nat) :
      ∃ init digit, m.repr.toList = init ++ [digit] ∧ digit.isDigit = true := by
    have hne : Nat.toDigits 10 m ≠ [] := Nat.toDigits_ne_nil
    refine ⟨(Nat.toDigits 10 m).dropLast, (Nat.toDigits 10 m).getLast hne, ?_, ?_⟩
    · exact Nat.toList_repr.trans (List.dropLast_concat_getLast hne).symm
    · exact Nat.isDigit_of_mem_toDigits (by decide) (by decide) (List.getLast_mem hne)
  show ∃ init digit, n.repr.toList = init ++ [digit] ∧ digit.isDigit = true
  cases n with
  | ofNat m => exact hnat m
  | negSucc m =>
      obtain ⟨init, digit, htext, hdigit⟩ := hnat (m + 1)
      exact ⟨'-' :: init, digit, by simp [Int.repr, htext], hdigit⟩

/-- The name of a kind does not end with a digit. -/
theorem name_ends_with_letter (kind : Kind) :
    ∃ init letter, kind.name.toList = init ++ [letter] ∧ letter.isDigit = false := by
  cases kind with
  | telemetry => exact ⟨"telemetr".toList, 'y', rfl, rfl⟩
  | tasks => exact ⟨"task".toList, 's', rfl, rfl⟩
  | memory => exact ⟨"memor".toList, 'y', rfl, rfl⟩
  | outputs => exact ⟨"output".toList, 's', rfl, rfl⟩
  | reboot => exact ⟨"reboo".toList, 't', rfl, rfl⟩

/-- No document is both a telemetry document and a state document. -/
theorem telemetryPath_ne_statePath (device other : String) (second : Int) (kind : Kind) :
    telemetryPath device second ≠ statePath other kind := by
  intro h
  obtain ⟨init, digit, hsecond, hdigit⟩ := toString_ends_with_digit second
  obtain ⟨stem, letter, hname, hletter⟩ := name_ends_with_letter kind
  have hlast := congrArg (fun path : String => path.toList.getLast?) h
  simp only [telemetryPath, statePath, String.toList_append, hsecond, hname, ← List.append_assoc,
    List.getLast?_concat, Option.some.injEq] at hlast
  rw [hlast, hletter] at hdigit
  cases hdigit

/-! ## Slashes -/

/-- A number in text has no slash. -/
theorem slash_not_mem_toString (n : Int) : '/' ∉ (toString n).toList := by
  have hnat (m : Nat) : '/' ∉ m.repr.toList := by
    rw [Nat.toList_repr]
    intro hslash
    exact absurd (Nat.isDigit_of_mem_toDigits (by decide) (by decide) hslash) (by decide)
  show '/' ∉ n.repr.toList
  cases n with
  | ofNat m => exact hnat m
  | negSucc m => simpa [Int.repr] using hnat (m + 1)

/-- The name of a kind has no slash. -/
theorem slash_not_mem_name (kind : Kind) : '/' ∉ kind.name.toList := by
  cases kind <;> decide

/-- A text is told by its parts before and behind the last slash. -/
theorem append_slash_inj {stem stem' name name' : List Char} (hname : '/' ∉ name)
    (hname' : '/' ∉ name') (h : stem ++ '/' :: name = stem' ++ '/' :: name') :
    stem = stem' ∧ name = name' := by
  rcases List.append_eq_append_iff.mp h with ⟨between, rfl, hrest⟩ | ⟨between, rfl, hrest⟩
  all_goals
    cases between with
    | nil => simpa [eq_comm] using hrest
    | cons slash between =>
        obtain ⟨rfl, hsplit⟩ := List.cons.inj hrest
        simp [hsplit] at hname hname'

/-- A path tells its device and the name behind the last slash. -/
theorem path_inj {device device' name name' : String} (folder : String) (hname : '/' ∉ name.toList)
    (hname' : '/' ∉ name'.toList)
    (h : "devices/" ++ device ++ (folder ++ "/") ++ name =
      "devices/" ++ device' ++ (folder ++ "/") ++ name') : device = device' ∧ name = name' := by
  have htext (device name : String) :
      ("devices/" ++ device ++ (folder ++ "/") ++ name).toList =
        ("devices/".toList ++ device.toList ++ folder.toList) ++ '/' :: name.toList := by
    simp [String.toList_append]
  have hlists := congrArg String.toList h
  rw [htext, htext] at hlists
  obtain ⟨hstem, hnames⟩ := append_slash_inj hname hname' hlists
  rw [List.append_left_inj, List.append_right_inj] at hstem
  exact ⟨String.toList_inj.mp hstem, String.toList_inj.mp hnames⟩

/-- A telemetry path tells its device and second. -/
theorem telemetryPath_inj {device other : String} {second later : Int} :
    telemetryPath device second = telemetryPath other later ↔ device = other ∧ second = later := by
  refine ⟨fun h => ?_, by rintro ⟨rfl, rfl⟩; rfl⟩
  obtain ⟨hdevice, hsecond⟩ := path_inj "/telemetry" (slash_not_mem_toString second)
    (slash_not_mem_toString later) h
  exact ⟨hdevice, Int.repr_inj.mp hsecond⟩

/-- A state path tells its device and kind. -/
theorem statePath_inj {device other : String} {kind kind' : Kind} :
    statePath device kind = statePath other kind' ↔ device = other ∧ kind = kind' := by
  refine ⟨fun h => ?_, by rintro ⟨rfl, rfl⟩; rfl⟩
  obtain ⟨hdevice, hname⟩ := path_inj "/state" (slash_not_mem_name kind)
    (slash_not_mem_name kind') h
  exact ⟨hdevice, Kind.name_injective hname⟩

/-- Paths are unambiguous for all device ids, those among them that look like parts of a path: a
telemetry path tells its device and second, a state path its device and kind, and no path is of both
sorts. -/
theorem paths_unambiguous (device other : String) (second later : Int) (kind kind' : Kind) :
    (telemetryPath device second = telemetryPath other later ↔
      device = other ∧ second = later) ∧
    (statePath device kind = statePath other kind' ↔ device = other ∧ kind = kind') ∧
    telemetryPath device second ≠ statePath other kind' := by
  refine ⟨?_, ?_, ?_⟩
  · exact telemetryPath_inj
  · exact statePath_inj
  · exact telemetryPath_ne_statePath device other second kind'

end Glasshouse.Store
