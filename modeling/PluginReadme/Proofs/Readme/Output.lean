import PluginReadme.Proofs.Readme.Links
import PluginReadme.Readme.Render

/-! The lines of a rendered document. Items, quotes and headings begin their lines with a mark of
their own, and blocks that are copied announce no more than they did in the source, so that a
declaration in a copied block is not hidden by the blocks in front of it. -/
namespace PluginReadme.Output
open Readme (renderBlock pushLine pushBlank quoteLine itemMark headingLine renderLinks)
open Version (isDigit)
open Numeral Finding Lines Links

variable {label output line text version front back rest out : Text} {block : Block}
  {blocks : List Block}

/-! ## Marks at the start of a line -/

private theorem quiet_star (label' : LineLabel label) (rest : Text) :
    Quiet label ('*' :: rest) := by
  refine quiet_of_mark (fun head => ?_) rfl label'.filled rest
  have operator := label'.plain '*' (List.mem_of_mem_head? head)
  cases operator

theorem numbered_cons {digits : Text} (run : Run isDigit digits) (rest : Text) :
    ∃ c more, digits ++ '.' :: rest = c :: more ∧ Text.isBlank c = false ∧ c ≠ ':' := by
  cases digits with
  | nil => exact ⟨'.', rest, rfl, by decide, by decide⟩
  | cons d digits =>
    obtain ⟨digit, -⟩ := run_cons.mp run
    refine ⟨d, digits ++ '.' :: rest, rfl, not_blank_of_digit digit, ?_⟩
    rintro rfl
    cases digit

/-- A number with a point is no start of a label, which holds no point. -/
private theorem quiet_numbered (label' : LineLabel label) {digits : Text}
    (run : Run isDigit digits) (rest : Text) : Quiet label (digits ++ '.' :: rest) := by
  have pointless : '.' ∉ label := fun member => by
    have operator := label'.plain '.' member
    cases operator
  apply Bool.eq_false_iff.mpr
  intro announced
  obtain ⟨c, more, split, solid, -⟩ := numbered_cons run rest
  have trimmed : Text.trimStart (digits ++ '.' :: rest) = digits ++ '.' :: rest := by
    simp [split, Text.trimStart, solid]
  rw [trimmed] at announced
  obtain ⟨gap, after, laid, blank, tail⟩ := announces_iff.mp announced
  have behind (c : Char) (more : Text) (head : gap ++ after = c :: more) :
      Text.isBlank c = true ∨ c = ':' := by
    cases gap with
    | cons d gap =>
      cases head
      exact Or.inl (run_cons.mp blank).1
    | nil =>
      rcases tail with rfl | ⟨pad, number, rfl, -⟩
      · cases head
      · cases head
        exact Or.inr rfl
  rw [List.append_assoc] at laid
  rcases split_cons laid.symm with ⟨short, rfl, left⟩ | ⟨short, pointed, -⟩
  · obtain ⟨d, more, split, solid, other⟩ := numbered_cons (run_append.mp run).2 rest
    rcases behind d more (left.trans split) with wrong | wrong
    · rw [solid] at wrong
      cases wrong
    · exact other wrong
  · exact pointless (by simp [pointed])

theorem digits_toString (n : Nat) : Run isDigit (toString n).toList := by
  intro c member
  have inside : c ∈ Nat.toDigits 10 n := by simpa [toString, Nat.repr] using member
  have digit := Nat.isDigit_of_mem_toDigits (by decide) (by decide) inside
  simp only [Char.isDigit, Bool.and_eq_true, decide_eq_true_eq] at digit
  simp only [isDigit, Bool.and_eq_true, decide_eq_true_eq]
  exact digit

theorem quiet_item (label' : LineLabel label) (start : Option Nat) (index : Nat) (rest : Text) :
    Quiet label (itemMark start index ++ rest) := by
  cases start with
  | none => exact quiet_star label' rest
  | some first =>
    have run := digits_toString (first + index)
    have split : itemMark (some first) index ++ rest =
        (toString (first + index)).toList ++ '.' :: rest := by simp [itemMark]
    rw [split]
    exact quiet_numbered label' run rest

theorem quiet_quote (label' : LineLabel label) (line : Text) : Quiet label (quoteLine line) := by
  unfold quoteLine
  split
  · exact quiet_of_mark (label'.unmarked '>' (by simp)) rfl label'.filled []
  · exact quiet_of_mark (label'.unmarked '>' (by simp)) rfl label'.filled _

/-! ## Blocks that announce nothing -/

theorem silent_pushLine (label' : LineLabel label) (silent : Silent label output)
    (each : EachLine (Quiet label) line) : Silent label (pushLine output line) := by
  unfold pushLine
  rw [List.append_assoc]
  exact silent.append (silent_of_each (each.trimEnd fun _ => quiet_trimEnd label'))

theorem silent_pushBlank (label' : LineLabel label) (silent : Silent label output) :
    Silent label (pushBlank output) := by
  have feed : Silent label ([] ++ ['\n']) := .line (by simp) (quiet_nil label'.filled) .nil
  unfold pushBlank
  split
  · exact silent
  · split
    · exact silent.append feed
    · exact silent.append (feed.append feed)

theorem silent_foldl {α : Type} {write : Text → α → Text} {items : List α}
    (silent : Silent label output)
    (step : ∀ item ∈ items, ∀ output, Silent label output → Silent label (write output item)) :
    Silent label (items.foldl write output) := by
  induction items generalizing output with
  | nil => exact silent
  | cons item items ih =>
    obtain ⟨here, later⟩ := List.forall_mem_cons.mp step
    exact ih (here output silent) later

/-- A block that announces nothing when it is rendered: its lines are hushed where it is copied,
and stand on lines of their own elsewhere. -/
def Muted (label : Text) : Block → Prop
  | .heading level text => 1 ≤ level ∧ LaterLines (Hushed label) text
  | .list _ items => ∀ item ∈ items, '\n' ∉ item
  | .paragraph text => EachLine (Hushed label) text
  | .quote _ => True
  | .blank => True
  | .verbatim text => EachLine (Hushed label) text

theorem item_free (start : Option Nat) (index : Nat) (free : '\n' ∉ text) :
    '\n' ∉ itemMark start index ++ ' ' :: renderLinks text := by
  have marked : '\n' ∉ itemMark start index := by
    cases start with
    | none => simp [itemMark]
    | some first =>
      intro member
      rcases List.mem_append.mp member with digit | point
      · have wrong := digits_toString (first + index) _ digit
        cases wrong
      · cases List.mem_singleton.mp point
  have rest := (renderLinks_edit text).free free
  simp [marked, rest]

theorem quote_free (free : '\n' ∉ line) : '\n' ∉ quoteLine line := by
  unfold quoteLine
  split
  · decide
  · simp [free]

/-- A heading is a text between marks. -/
theorem headingLine_parts {level : Nat} (marked : 1 ≤ level) (text : Text) :
    ∃ c mark closing, headingLine level text = c :: mark ++ text ++ closing ∧
      Text.isBlank c = false ∧ '\n' ∉ c :: mark ∧ '\n' ∉ closing := by
  unfold headingLine
  split
  · exact ⟨'=', "== ".toList, " ===".toList, rfl, rfl, by decide, by decide⟩
  · exact ⟨'=', "= ".toList, " ==".toList, rfl, rfl, by decide, by decide⟩
  · exact ⟨'=', " ".toList, " =".toList, rfl, rfl, by decide, by decide⟩
  · obtain ⟨depth, rfl⟩ := Nat.exists_eq_add_of_le' marked
    refine ⟨'#', List.replicate depth '#' ++ [' '], [], ?_, rfl, ?_, List.not_mem_nil⟩
    · simp [List.replicate_succ]
    · simp [List.mem_replicate]

private theorem muted_heading (label' : LineLabel label) {level : Nat} (marked : 1 ≤ level)
    (later : LaterLines (Hushed label) text) :
    EachLine (Quiet label) (headingLine level (renderLinks text)) := by
  have edited : LaterLines (Quiet label) (renderLinks text) := by
    have edit := renderLinks_edit text
    rcases later with free | ⟨line, more, rfl, free, rest⟩
    · exact Or.inl (edit.free free)
    · obtain ⟨line', more', split, first, second⟩ := edit.split
      exact Or.inr ⟨line', more', split, first.free free, each_quiet label' rest second⟩
  have under (marks : Nat) : EachLine (Quiet label) (List.replicate (marks + 1) '=' ++ ' ' ::
      renderLinks text ++ ' ' :: List.replicate (marks + 1) '=') := by
    have first (line : Text) :
        Quiet label ((List.replicate (marks + 1) '=' ++ [' ']) ++ line) :=
      quiet_of_mark (label'.unmarked '=' (by simp)) rfl label'.filled _
    have marked := edited.marked (by simp [List.mem_replicate]) first
    simpa using marked.closed (by simp [List.mem_replicate])
      fun line quiet => quiet_closing label' quiet marks
  unfold headingLine
  split
  · exact under 2
  · exact under 1
  · exact under 0
  · obtain ⟨depth, rfl⟩ := Nat.exists_eq_add_of_le' marked
    have first (line : Text) :
        Quiet label ((List.replicate (depth + 1) '#' ++ [' ']) ++ line) :=
      quiet_of_mark (label'.unmarked '#' (by simp)) rfl label'.filled _
    simpa using edited.marked (by simp [List.mem_replicate]) first

theorem renderBlock_silent (label' : LineLabel label) (muted : Muted label block)
    (silent : Silent label output) : Silent label (renderBlock output block) := by
  cases block with
  | heading level text =>
    obtain ⟨marked, later⟩ := muted
    exact silent_pushLine label' silent (muted_heading label' marked later)
  | list start items =>
    refine silent_pushBlank label' (silent_foldl silent fun item member output silent => ?_)
    obtain ⟨item, index⟩ := item
    have free : '\n' ∉ item := muted item (List.fst_mem_of_mem_zipIdx member)
    exact silent_pushLine label' silent (.last (item_free start index free)
      (quiet_item label' start index _))
  | paragraph text =>
    exact silent_pushBlank label'
      (silent_pushLine label' silent (each_quiet label' muted (renderLinks_edit text)))
  | quote text =>
    refine silent_pushBlank label' (silent_foldl silent fun line member output silent => ?_)
    exact silent_pushLine label' silent (.last (quote_free (lines_free _ line member))
      (quiet_quote label' line))
  | blank => exact silent_pushBlank label' silent
  | verbatim text =>
    exact silent_pushBlank label'
      (silent_pushLine label' silent (each_quiet label' muted (Edit.same text)))

/-! ## The block that declares the version -/

/-- A text in which a declaration comes first: the lines in front of it announce nothing. -/
def Shows (label version text : Text) : Prop :=
  ∃ front tag rest, text = front ++ tag ++ rest ∧ Silent label front ∧ IsTag label version tag ∧
    Stops isDigit rest

/-- A stretch of a source with a declaration in it, which no link touches, and lines in front of it
in which nothing is announced. -/
def Holds (label version text : Text) : Prop :=
  ∃ front tag rest, text = front ++ tag ++ rest ∧
    (front = [] ∨ ∃ body, front = body ++ ['\n'] ∧ EachLine (Hushed label) body) ∧
    IsTag label version tag ∧ Stops (fun c => isDigit c || c == '[') rest

/-- A block that is copied with a declaration in it.  Of a heading the first line is not left as it
was. -/
def Carries (label version : Text) : Block → Prop
  | .heading level text => 1 ≤ level ∧ ∃ line more, text = line ++ '\n' :: more ∧ '\n' ∉ line ∧
    Holds label version more
  | .paragraph text => Holds label version text
  | .verbatim text => Holds label version text
  | _ => False

theorem find_of_shows (label' : LineLabel label) (shows : Shows label version text) :
    Version.find text label = some version := by
  obtain ⟨front, tag, rest, rfl, silent, tagged, stop⟩ := shows
  rw [List.append_assoc]
  exact find_first label' silent (tagged.declares stop)

theorem Shows.behind (shows : Shows label version text) (silent : Silent label front) :
    Shows label version (front ++ text) := by
  obtain ⟨between, tag, rest, rfl, silent', tagged, stop⟩ := shows
  exact ⟨front ++ between, tag, rest, by simp, silent.append silent', tagged, stop⟩

theorem Shows.before (shows : Shows label version text) (stop : Stops isDigit back) :
    Shows label version (text ++ back) := by
  obtain ⟨front, tag, rest, rfl, silent, tagged, stop'⟩ := shows
  refine ⟨front, tag, rest ++ back, by simp, silent, tagged, ?_⟩
  cases rest with
  | nil => exact stop
  | cons c rest => exact stop'

theorem Shows.trimEnd (shows : Shows label version text) :
    Shows label version (Text.trimEnd text) := by
  obtain ⟨front, tag, rest, rfl, silent, tagged, stop⟩ := shows
  obtain ⟨blanks, split, -⟩ := trimEnd_split rest
  refine ⟨front, tag, Text.trimEnd rest, ?_, silent, tagged, stops_front (split ▸ stop)⟩
  obtain ⟨most, last, rfl, digit⟩ := tagged.last
  rw [← List.append_assoc, trimEnd_solid (not_blank_of_digit digit)]

theorem Shows.trimStart (label' : LineLabel label) (shows : Shows label version text) :
    Shows label version (Text.trimStart text) := by
  obtain ⟨front, tag, rest, rfl, silent, tagged, stop⟩ := shows
  refine ⟨Text.trimStart front, tag, rest, ?_, silent.trimStart, tagged, stop⟩
  have solid : Text.trimStart (tag ++ rest) = tag ++ rest := by
    obtain ⟨c, more, rfl, solid, -⟩ := label'.cons
    obtain ⟨gap, pad, rfl, -⟩ := tagged
    simp [Text.trimStart, solid]
  rw [List.append_assoc, trimStart_append]
  split
  · rename_i nothing
    rw [nothing, solid, List.nil_append]
  · rw [List.append_assoc]

private theorem edit_tag (plain : Plain.IsPlain label) {tag : Text}
    (tagged : IsTag label version tag) (stop : Stops (fun c => isDigit c || c == '[') rest)
    (edit : Edit (tag ++ rest) out) :
    ∃ rest', out = tag ++ rest' ∧ Stops isDigit rest' := by
  have ends : tag.getLast? ≠ some ']' := by
    obtain ⟨most, last, rfl, digit⟩ := tagged.last
    rw [List.getLast?_concat]
    intro same
    cases same
    cases digit
  obtain ⟨rest', rfl, behind⟩ := edit.safe (safe_of_tag plain tagged) ends
  refine ⟨rest', rfl, ?_⟩
  cases behind with
  | nil => exact stops_nil
  | keep c more =>
    have other := stop c rfl
    exact stops_cons (by simpa using (Bool.or_eq_false_iff.mp other).1) _
  | drop more =>
    have wrong := stop '[' rfl
    cases wrong
  | part more => exact stops_cons rfl _

theorem Holds.shows (label' : LineLabel label) (holds : Holds label version text)
    (edit : Edit text out) : Shows label version out := by
  obtain ⟨front, tag, rest, rfl, starts, tagged, stop⟩ := holds
  rcases starts with rfl | ⟨body, rfl, each⟩
  · obtain ⟨rest', rfl, stop'⟩ := edit_tag label'.plain tagged stop edit
    exact ⟨[], tag, rest', rfl, .nil, tagged, stop'⟩
  · rw [List.append_assoc, List.append_assoc, List.singleton_append] at edit
    obtain ⟨body', behind, rfl, first, second⟩ := edit.split
    obtain ⟨rest', rfl, stop'⟩ := edit_tag label'.plain tagged stop second
    exact ⟨body' ++ ['\n'], tag, rest', by simp, silent_of_each (each_quiet label' each first),
      tagged, stop'⟩

/-- A heading keeps its marks on its first and its last line. -/
private theorem heading_shows (label' : LineLabel label) {level : Nat} (marked : 1 ≤ level)
    (free : '\n' ∉ line) (shows : Shows label version text) :
    Shows label version (headingLine level (line ++ '\n' :: text)) := by
  have behind {mark : Char} (listed : mark ∈ ['=', '#', '>']) (solid : Text.isBlank mark = false)
      (apart : mark ≠ '\n') (marks : Nat) {text : Text} (shows : Shows label version text) :
      Shows label version (List.replicate (marks + 1) mark ++ ' ' :: line ++ '\n' :: text) := by
    have silent : Silent label (List.replicate (marks + 1) mark ++ ' ' :: line ++ ['\n']) :=
      .line (by simp [List.mem_replicate, free, apart.symm])
        (quiet_of_mark (label'.unmarked mark listed) solid label'.filled _) .nil
    simpa using shows.behind silent
  have under (marks : Nat) : Shows label version (List.replicate (marks + 1) '=' ++ ' ' ::
      (line ++ '\n' :: text) ++ ' ' :: List.replicate (marks + 1) '=') := by
    simpa using behind (by simp) (by decide) (by decide) marks
      (shows.before (stops_cons rfl (List.replicate (marks + 1) '=')))
  unfold headingLine
  split
  · exact under 2
  · exact under 1
  · exact under 0
  · obtain ⟨depth, rfl⟩ := Nat.exists_eq_add_of_le' marked
    simpa using behind (by simp) (by decide) (by decide) depth shows

theorem pushBlank_append (output : Text) : ∃ more, pushBlank output = output ++ more := by
  unfold pushBlank
  split
  · exact ⟨[], (List.append_nil output).symm⟩
  · split
    · exact ⟨_, rfl⟩
    · exact ⟨_, rfl⟩

/-- A block that carries a declaration shows it, on lines that have been ended. -/
theorem renderBlock_shows (label' : LineLabel label) (carries : Carries label version block)
    (silent : Silent label output) :
    ∃ base more, renderBlock output block = base ++ '\n' :: more ∧ Shows label version base := by
  have copied (text : Text) (shows : Shows label version text) :
      ∃ base more, pushBlank (pushLine output text) = base ++ '\n' :: more ∧
        Shows label version base := by
    obtain ⟨more, added⟩ := pushBlank_append (pushLine output text)
    refine ⟨output ++ Text.trimEnd text, more, ?_, shows.trimEnd.behind silent⟩
    rw [added, pushLine, List.append_assoc, List.singleton_append]
  cases block with
  | heading level text =>
    obtain ⟨marked, line, more, rfl, free, holds⟩ := carries
    obtain ⟨line', more', split, first, second⟩ := (renderLinks_edit (line ++ '\n' :: more)).split
    have shows := heading_shows label' marked (first.free free) (holds.shows label' second)
    rw [← split] at shows
    refine ⟨output ++ Text.trimEnd (headingLine level (renderLinks (line ++ '\n' :: more))), [], ?_,
      shows.trimEnd.behind silent⟩
    rw [renderBlock, pushLine]
  | paragraph text => exact copied _ (carries.shows label' (renderLinks_edit text))
  | verbatim text => exact copied _ (carries.shows label' (Edit.same text))
  | list start items => exact carries.elim
  | quote text => exact carries.elim
  | blank => exact carries.elim

theorem foldl_append {α : Type} {write : Text → α → Text}
    (step : ∀ output item, ∃ more, write output item = output ++ more) (items : List α)
    (output : Text) : ∃ more, items.foldl write output = output ++ more := by
  induction items generalizing output with
  | nil => exact ⟨[], (List.append_nil output).symm⟩
  | cons item items ih =>
    obtain ⟨first, here⟩ := step output item
    obtain ⟨rest, later⟩ := ih (write output item)
    exact ⟨first ++ rest, by rw [List.foldl_cons, later, here, List.append_assoc]⟩

/-- A block is written after what has been written. -/
theorem renderBlock_append (output : Text) (block : Block) :
    ∃ more, renderBlock output block = output ++ more := by
  have line (output line : Text) : ∃ more, pushLine output line = output ++ more :=
    ⟨Text.trimEnd line ++ ['\n'], List.append_assoc ..⟩
  have ended (before : Text) (written : ∃ more, before = output ++ more) :
      ∃ more, pushBlank before = output ++ more := by
    obtain ⟨first, rfl⟩ := written
    obtain ⟨second, added⟩ := pushBlank_append (output ++ first)
    exact ⟨first ++ second, by rw [added, List.append_assoc]⟩
  cases block with
  | heading level text => exact line output _
  | list start items => exact ended _ (foldl_append (fun output item => line output _) _ output)
  | paragraph text => exact ended _ (line output _)
  | quote text => exact ended _ (foldl_append (fun output item => line output _) _ output)
  | blank => exact pushBlank_append output
  | verbatim text => exact ended _ (line output _)

/-- A document shows the declaration of a block if the blocks in front of it announce nothing. -/
theorem renderDocument_shows (label' : LineLabel label) {before after : List Block}
    (muted : ∀ block ∈ before, Muted label block) (carries : Carries label version block) :
    Shows label version (Readme.renderDocument ⟨before ++ block :: after⟩) := by
  have silent : Silent label (before.foldl renderBlock []) :=
    silent_foldl .nil fun block member output => renderBlock_silent label' (muted block member)
  obtain ⟨base, more, written, shows⟩ := renderBlock_shows label' carries silent
  obtain ⟨rest, later⟩ := foldl_append renderBlock_append after (base ++ '\n' :: more)
  have whole :
      (before ++ block :: after).foldl renderBlock [] = base ++ '\n' :: (more ++ rest) := by
    rw [List.foldl_append, List.foldl_cons, written, later]
    simp
  rw [Readme.renderDocument, whole, Text.trim]
  exact ((shows.before (stops_cons rfl _)).trimStart label').trimEnd

/-- What the readme shows, the published text declares. -/
theorem find_build (label' : LineLabel label) {readme changelog : Text}
    (shows : Shows label version (Readme.render readme)) :
    Version.find (Readme.build readme changelog) label = some version := by
  unfold Readme.build
  rw [List.append_assoc]
  exact find_of_shows label' (shows.before (stops_cons rfl _))

end PluginReadme.Output
