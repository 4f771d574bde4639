import PluginReadme.Proofs.Document.Lowering
import PluginReadme.Proofs.Markdown.Nesting
import PluginReadme.Proofs.Readme.Output

/-! The version that a readme declares on a line which is copied, in a paragraph, in a block that is
kept as it is, or below the first line of a heading, is the one that the published text declares. -/
namespace PluginReadme.KeptVersion
open Markdown (Node Span blocksOf)
open Version (find isDigit)
open Numeral Lines Finding Links Output SourceLine Layout Lowered

variable {label version readme source text tag before front back rest indent tail : Text}
  {place start stop low high : Nat} {node : Node} {nodes : List Node}

instance (front : Text) : Decidable (LineStart front) :=
  inferInstanceAs (Decidable (front = [] ∨ front = ['\uFEFF'] ∨ _ ∨ _))

/-- Nothing is announced where a line of a source begins in front of a place. -/
def Unannounced (label source : Text) (place : Nat) : Prop :=
  ∀ earlier < place, LineStart (source.take earlier) → heralds label (source.drop earlier) = false

instance (label source : Text) (place : Nat) : Decidable (Unannounced label source place) :=
  inferInstanceAs (Decidable (∀ earlier < place, _))

/-! ## Hushed stretches of a source -/

private theorem indent_cases {c : Char} (indent : isIndent c = true) : c = ' ' ∨ c = '\t' := by
  simpa [isIndent] using indent

private theorem blank_of_indent (run : Run isIndent text) : Run Text.isBlank text := by
  intro c member
  rcases indent_cases (run c member) with rfl | rfl <;> decide

private theorem inLine_of_indent (run : Run isIndent text) : Run inLine text := by
  intro c member
  rcases indent_cases (run c member) with rfl | rfl <;> decide

private theorem squeezed_indent (run : Run isIndent text) : squeezed text = text := by
  apply List.filter_eq_self.mpr
  intro c member
  rcases indent_cases (run c member) with rfl | rfl <;> decide

private theorem squeezed_append (front back : Text) :
    squeezed (front ++ back) = squeezed front ++ squeezed back := List.filter_append ..

/-- What a part of a line announces, the whole line announces, too, if the rest of it is
indentation. -/
private theorem heralds_whole (filled : label ≠ []) (heard : heralds label text = true)
    (before : Run isIndent indent) (after : Run isIndent tail) (stops : Stops inLine rest) :
    heralds label (indent ++ (text ++ (tail ++ rest))) = true := by
  have taken : ∃ more, (text ++ (tail ++ rest)).takeWhile inLine = text.takeWhile inLine ++ more ∧
      Run isIndent more := by
    rw [List.takeWhile_append]
    split
    · rename_i whole
      have all : text.takeWhile inLine = text :=
        (List.takeWhile_prefix inLine).eq_of_length whole
      exact ⟨tail, by rw [all, takeWhile_run (inLine_of_indent after) stops], after⟩
    · exact ⟨[], (List.append_nil _).symm, Run.nil⟩
  obtain ⟨more, taken, run⟩ := taken
  unfold heralds at heard ⊢
  have stripped :
      Text.trimStart (squeezed ((indent ++ (text ++ (tail ++ rest))).takeWhile inLine)) =
        Text.trimStart (squeezed (text.takeWhile inLine) ++ more) := by
    rw [List.takeWhile_append_of_pos (inLine_of_indent before), taken, squeezed_append,
      squeezed_append, squeezed_indent before, squeezed_indent run, Text.trimStart,
      List.dropWhile_append_of_pos (blank_of_indent before)]
    rfl
  rw [stripped, trimStart_append]
  split
  · rename_i nothing
    rw [nothing] at heard
    cases label with
    | nil => exact absurd rfl filled
    | cons c label => cases heard
  · exact announces_blanks heard (blank_of_indent run)

/-- A stretch of a source from the start of a line to the end of one, but for indentation, is hushed
in front of a declaration. -/
private theorem stretch_hushed (filled : label ≠ []) (silent : Unannounced label source place)
    (split : source = front ++ indent ++ (text ++ (tail ++ rest))) (starts : LineStart front)
    (before : Run isIndent indent) (after : Run isIndent tail) (stops : Stops inLine rest)
    (below : front.length + indent.length + text.length ≤ place) :
    EachLine (Hushed label) text := by
  refine eachLine_intro
    fun first line last parted free begins ends first' more same behind some => ?_
  obtain ⟨tail', rest', ending, tail'', stops'⟩ : ∃ tail' rest',
      last ++ (tail ++ rest) = tail' ++ rest' ∧ Run isIndent tail' ∧ Stops inLine rest' := by
    rcases ends with rfl | feed
    · exact ⟨tail, rest, rfl, after, stops⟩
    · refine ⟨[], last ++ (tail ++ rest), rfl, Run.nil, ?_⟩
      cases last with
      | nil => cases feed
      | cons c last =>
        cases feed
        exact stops_cons rfl _
  obtain ⟨front', indent', beginning, starts', before'⟩ : ∃ front' indent',
      front ++ indent ++ (first ++ first') = front' ++ indent' ∧ LineStart front' ∧
        Run isIndent indent' := by
    have ended {text : Text} {c : Char} (last : text.getLast? = Option.some c) (front : Text) :
        (front ++ text).getLast? = Option.some c := by
      have filled : text ≠ [] := by
        rintro rfl
        cases last
      rw [List.getLast?_append_of_ne_nil _ filled, last]
    rcases behind with rfl | return_
    · rcases begins with rfl | feed
      · exact ⟨front, indent, by simp, starts, before⟩
      · exact ⟨front ++ indent ++ first, [], by simp, Or.inr (Or.inr (Or.inl (ended feed _))),
          Run.nil⟩
    · exact ⟨front ++ indent ++ (first ++ first'), [], by simp,
        Or.inr (Or.inr (Or.inr (ended (ended return_ _) _))), Run.nil⟩
  have whole : source = front' ++ (indent' ++ (more ++ (tail' ++ rest'))) := by
    rw [split, parted, same, ← ending, ← List.append_assoc front', ← beginning]
    simp
  cases heard : heralds label more with
  | false => rfl
  | true =>
    have earlier : front'.length < place := by
      have sizes := congrArg List.length beginning
      have size := congrArg List.length parted
      have size' := congrArg List.length same
      have filled' := List.length_pos_iff.mpr some
      simp only [List.length_append] at sizes size size'
      omega
    have quiet := silent front'.length earlier (by rwa [whole, List.take_left])
    rw [whole, List.drop_left, heralds_whole filled heard before' tail'' stops'] at quiet
    cases quiet

/-! ## Slices of a source -/

private theorem led_take (led : Led source place) : ∃ front indent,
    source.take place = front ++ indent ∧ LineStart front ∧ Run isIndent indent := by
  obtain ⟨front, indent, back, rfl, rfl, starts, run⟩ := led
  refine ⟨front, indent, ?_, starts, run⟩
  rw [← List.append_assoc, List.take_left' (by simp)]

private theorem closed_drop (closed : Closed source place) : place ≤ source.length ∧
    ∃ tail rest, source.drop place = tail ++ rest ∧ Run isIndent tail ∧ Stops inLine rest := by
  obtain ⟨front, tail, rest, rfl, rfl, run, stops⟩ := closed
  exact ⟨by simp, tail, rest, by rw [List.drop_left], run, stops⟩

/-- What stands around a declaration in a slice. -/
private theorem slice_around (rest : Text) (after : start ≤ before.length)
    (reaches : before.length + tag.length ≤ stop) :
    ∃ rest', (Span.mk start stop).slice (before ++ (tag ++ rest)) =
      before.drop start ++ (tag ++ rest') ∧ rest' <+: rest := by
  refine ⟨rest.take (stop - start - (before.length - start) - tag.length), ?_,
    List.take_prefix _ _⟩
  unfold Span.slice
  dsimp only
  rw [List.drop_append_of_le_length after, List.take_append, List.take_append, List.length_drop,
    List.take_of_length_le (by rw [List.length_drop]; omega),
    List.take_of_length_le (by omega)]

/-- A slice between two lines is hushed in front of a declaration. -/
private theorem slice_hushed (filled : label ≠ []) (silent : Unannounced label source place)
    (led : Led source start) (closed : Closed source stop) (fits : start ≤ stop)
    (below : stop ≤ place) : EachLine (Hushed label) ((Span.mk start stop).slice source) := by
  obtain ⟨front, indent, ahead, starts, before⟩ := led_take led
  obtain ⟨within, tail, rest, behind, after, stops⟩ := closed_drop closed
  obtain ⟨split, size⟩ := slice_parts fits within
  rw [ahead, behind] at split
  refine stretch_hushed filled silent split starts before after stops ?_
  have sizes := congrArg List.length ahead
  rw [List.length_take, List.length_append] at sizes
  omega

/-- So are the lines of a slice below the first one, wherever that begins. -/
private theorem slice_later (filled : label ≠ []) (silent : Unannounced label source place)
    (closed : Closed source stop ∨ '\n' ∉ (Span.mk start stop).slice source)
    (below : stop ≤ place) : LaterLines (Hushed label) ((Span.mk start stop).slice source) := by
  rcases line_or_more ((Span.mk start stop).slice source) with free | ⟨line, more, parted, free⟩
  · exact Or.inl free
  · have closed : Closed source stop := by
      refine closed.resolve_right fun free => free ?_
      rw [parted]
      simp
    have fits : start ≤ stop := by
      apply Nat.le_of_not_lt
      intro empty
      rw [Span.slice, Nat.sub_eq_zero_of_le (Nat.le_of_lt empty), List.take_zero] at parted
      simp at parted
    obtain ⟨within, tail, rest, behind, after, stops⟩ := closed_drop closed
    obtain ⟨split, size⟩ := slice_parts fits within
    refine Or.inr ⟨line, more, parted, free, ?_⟩
    have split' : source = (source.take start ++ line ++ ['\n']) ++ [] ++
        (more ++ (tail ++ rest)) := by
      rw [parted, behind] at split
      simpa using split
    refine stretch_hushed filled silent split' (lineStart_feed _) Run.nil after stops ?_
    have sizes := congrArg List.length parted
    have short := List.length_take_le start source
    simp only [List.length_append, List.length_cons, List.length_nil] at sizes ⊢
    omega

/-- A node in front of a declaration comes to a block that announces nothing. -/
private theorem node_muted (label' : LineLabel label) (silent : Unannounced label source place)
    (sound : Sound source node) (fits : node.span.start ≤ node.span.stop)
    (below : node.span.stop ≤ place) : Muted label (Document.lower source node) := by
  cases node with
  | heading span level content =>
    obtain ⟨marked, contents⟩ := sound
    refine ⟨marked, ?_⟩
    cases content with
    | none => exact Or.inl (by simp)
    | some content =>
      obtain ⟨-, inside, closed, -⟩ := contents content rfl
      exact slice_later label'.filled silent closed (inside.trans below)
  | paragraph span => exact slice_hushed label'.filled silent sound.1 sound.2.1 fits below
  | verbatim span => exact slice_hushed label'.filled silent sound.1 sound.2 fits below
  | quote span children => exact trivial
  | list span mark start items => exact entries_free source items

/-! ## The declaration of a readme -/

/-- Whether the text between two places is copied from a node. The first line of a heading is not
left as it was. -/
def copies (start stop : Nat) : Node → Bool
  | .paragraph span => span.start ≤ start && stop ≤ span.stop
  | .verbatim span => span.start ≤ start && stop ≤ span.stop
  | .heading _ _ (some content) => content.start < start && stop ≤ content.stop
  | _ => false

/-- A readme declares a version in a block that is copied. The declaration begins a line, and its
number is followed neither by one more digit nor by a link, whose text could begin with one. No
line in front of it announces a version, not even without the brackets of its links: a line that
declares nothing in the source could do so in the published text. -/
structure Copied (label version readme before tag rest : Text) : Prop where
  split : readme = before ++ (tag ++ rest)
  begins : before = [] ∨ before.getLast? = some '\n'
  tagged : IsTag label version tag
  stop : Stops (fun c => isDigit c || c == '[') rest
  silent : Unannounced label readme before.length
  block : ∃ node ∈ blocksOf readme, copies before.length (before.length + tag.length) node = true

/-- The text between a place and the declaration is made up of whole lines. -/
private theorem Copied.lines (copied : Copied label version readme before tag rest)
    (place : Nat) : before.drop place = [] ∨ ∃ body, before.drop place = body ++ ['\n'] := by
  rcases copied.begins with rfl | ends
  · exact Or.inl List.drop_nil
  · by_cases past : before.length ≤ place
    · exact Or.inl (List.drop_eq_nil_of_le past)
    · refine Or.inr (List.getLast?_eq_some_iff.mp ?_)
      rw [List.getLast?_drop, if_neg past, ends]

/-- The source up to a line end in front of the declaration. -/
private theorem Copied.body (copied : Copied label version readme before tag rest) {body : Text}
    (after : start ≤ before.length) (split : before.drop start = body ++ ['\n']) :
    readme = readme.take start ++ (body ++ ([] ++ '\n' :: (tag ++ rest))) ∧
      (readme.take start).length + body.length ≤ before.length := by
  have sizes := congrArg List.length split
  have short := List.length_take_le start readme
  simp only [List.length_drop, List.length_append, List.length_singleton] at sizes
  refine ⟨?_, by omega⟩
  have dropped : readme.drop start = body ++ ([] ++ '\n' :: (tag ++ rest)) := by
    rw [copied.split, List.drop_append_of_le_length after, split]
    simp
  rw [← dropped, List.take_append_drop]

private theorem stop_prefix {part : Text} (stop : Stops (fun c => isDigit c || c == '[') rest)
    (front : part <+: rest) : Stops (fun c => isDigit c || c == '[') part := by
  obtain ⟨more, rfl⟩ := front
  exact stops_front stop

private theorem slice_holds (label' : LineLabel label)
    (copied : Copied label version readme before tag rest) (led : Led readme start)
    (after : start ≤ before.length) (reaches : before.length + tag.length ≤ stop) :
    Holds label version ((Span.mk start stop).slice readme) := by
  obtain ⟨rest', around, part⟩ := slice_around rest after reaches
  rw [← copied.split] at around
  refine ⟨before.drop start, tag, rest', by rw [around, List.append_assoc], ?_, copied.tagged,
    stop_prefix copied.stop part⟩
  refine (copied.lines start).imp_right ?_
  rintro ⟨body, split⟩
  obtain ⟨front, indent, ahead, starts, run⟩ := led_take led
  obtain ⟨whole, below⟩ := copied.body after split
  rw [ahead] at whole below
  rw [List.length_append] at below
  exact ⟨body, split, stretch_hushed label'.filled copied.silent whole starts run Run.nil
    (stops_cons rfl _) below⟩

private theorem heading_holds (label' : LineLabel label)
    (copied : Copied label version readme before tag rest) (after : start < before.length)
    (reaches : before.length + tag.length ≤ stop) :
    ∃ line more, (Span.mk start stop).slice readme = line ++ '\n' :: more ∧ '\n' ∉ line ∧
      Holds label version more := by
  obtain ⟨rest', around, part⟩ := slice_around rest (Nat.le_of_lt after) reaches
  rw [← copied.split] at around
  have stop' := stop_prefix copied.stop part
  rcases copied.lines start with none | ⟨body, split⟩
  · have := List.drop_eq_nil_iff.mp none
    omega
  · rw [split] at around
    rcases line_or_more body with free | ⟨line, more, rfl, free⟩
    · exact ⟨body, tag ++ rest', by simpa using around, free, [], tag, rest', rfl, Or.inl rfl,
        copied.tagged, stop'⟩
    · obtain ⟨whole, below⟩ := copied.body (Nat.le_of_lt after) split
      have whole' : readme = (readme.take start ++ line ++ ['\n']) ++ [] ++
          (more ++ ([] ++ '\n' :: (tag ++ rest))) := by
        refine whole.trans ?_
        simp
      refine ⟨line, more ++ '\n' :: (tag ++ rest'), by simpa using around, free, more ++ ['\n'],
        tag, rest', by simp, Or.inr ⟨more, rfl, ?_⟩, copied.tagged, stop'⟩
      refine stretch_hushed label'.filled copied.silent whole' (lineStart_feed _) Run.nil Run.nil
        (stops_cons rfl _) ?_
      simp only [List.length_append, List.length_cons, List.length_nil] at below ⊢
      omega

/-- A paragraph or a block that is kept as it is copies what stands in it, a heading what stands
below its first line. -/
private theorem copies_cases (copy : copies start stop node = true) :
    (∃ span, (node = .paragraph span ∨ node = .verbatim span) ∧ span.start ≤ start ∧
        stop ≤ span.stop) ∨
      ∃ span level content, node = .heading span level (some content) ∧ content.start < start ∧
        stop ≤ content.stop := by
  cases node with
  | heading span level content =>
    cases content with
    | none => cases copy
    | some content => exact Or.inr ⟨span, level, content, rfl, by simpa [copies] using copy⟩
  | paragraph span => exact Or.inl ⟨span, Or.inl rfl, by simpa [copies] using copy⟩
  | verbatim span => exact Or.inl ⟨span, Or.inr rfl, by simpa [copies] using copy⟩
  | quote span children => cases copy
  | list span mark start items => cases copy

private theorem node_carries (label' : LineLabel label)
    (copied : Copied label version readme before tag rest) (sound : Sound readme node)
    (copy : copies before.length (before.length + tag.length) node = true) :
    Carries label version (Document.lower readme node) := by
  obtain ⟨span, rfl | rfl, after, reaches⟩ | ⟨span, level, content, rfl, after, reaches⟩ :=
    copies_cases copy
  · exact slice_holds label' copied sound.1 after reaches
  · exact slice_holds label' copied sound.1 after reaches
  · exact ⟨sound.1, heading_holds label' copied after reaches⟩

/-- In front of the declaration nothing is declared. -/
private theorem before_silent (label' : LineLabel label)
    (copied : Copied label version readme before tag rest) : Silent label before := by
  have split := copied.lines 0
  rw [List.drop_zero] at split
  rcases split with rfl | ⟨body, ended⟩
  · exact .nil
  · obtain ⟨whole, below⟩ := @Copied.body _ _ _ _ _ _ 0 copied body (Nat.zero_le _) ended
    rw [List.take_zero] at whole below
    have whole : readme = [] ++ [] ++ (body ++ ([] ++ '\n' :: (tag ++ rest))) := whole
    have each := stretch_hushed label'.filled copied.silent whole
      (Or.inl rfl) Run.nil Run.nil (stops_cons rfl _) (by simpa using below)
    rw [ended]
    exact silent_of_each (each_quiet label' each (Edit.same body))

/-- A block does not begin behind what is copied from it. -/
private theorem copies_after (sound : Sound source node)
    (copy : copies start stop node = true) : node.span.start ≤ start := by
  obtain ⟨span, rfl | rfl, after, -⟩ | ⟨span, level, content, rfl, after, -⟩ := copies_cases copy
  · exact after
  · exact after
  · obtain ⟨inside, -⟩ := sound.2 content rfl
    exact inside.trans (Nat.le_of_lt after)

/-- The version that a readme declares in a copied block is the one that is found in it, and the
one that the published text declares, whatever the changelog holds. -/
theorem copied_version_is_published (label' : LineLabel label)
    (copied : Copied label version readme before tag rest) (changelog : Text) :
    find readme label = some version ∧
      find (Readme.build readme changelog) label = some version := by
  have stop : Stops isDigit rest := fun c member =>
    (Bool.or_eq_false_iff.mp (copied.stop c member)).1
  constructor
  · have declared := copied.tagged.declares stop
    rw [copied.split]
    exact find_first label' (before_silent label' copied) declared
  · obtain ⟨node, member, copy⟩ := copied.block
    obtain ⟨high, chain⟩ := Nesting.blocksOf_laid readme
    obtain ⟨nodes, others, parted⟩ := List.append_of_mem member
    rw [parted] at chain
    obtain ⟨mid, first, second⟩ := chain.split
    obtain ⟨front, back, lowered, known⟩ := lowerAll_split readme nodes node others
    have shows : Shows label version (Readme.render readme) := by
      unfold Readme.render Document.ofMarkdown
      rw [parted, lowered]
      cases second with
      | cons sound after fits rest =>
        refine renderDocument_shows label' (fun block inside => ?_)
          (node_carries label' copied sound copy)
        rcases known block inside with rfl | ⟨other, earlier, rfl⟩
        · exact trivial
        · obtain ⟨sound', fits', before'⟩ := first.mem earlier
          have reached := copies_after sound copy
          exact node_muted label' copied.silent sound' fits' (by omega)
    exact find_build label' shows

/-- The header of a usual readme, behind a title and with a link and a list around it. -/
theorem stable_tag_is_published :
    let readme := "# Plugin\n\n[Home](https://x.org)\nStable tag: 1.2.3\n\n* Item".toList
    LineLabel "Stable tag".toList ∧
      Copied "Stable tag".toList "1.2.3".toList readme
        "# Plugin\n\n[Home](https://x.org)\n".toList "Stable tag: 1.2.3".toList
        "\n\n* Item".toList ∧
      find readme "Stable tag".toList = some "1.2.3".toList ∧
      find (Readme.build readme "# Changes".toList) "Stable tag".toList =
        some "1.2.3".toList := by
  intro readme
  have begins : ∀ c ∈ "Stable tag".toList.head?, Text.isBlank c = false ∧ c ∉ ['=', '#', '>'] := by
    intro c front
    obtain rfl : 'S' = c := Option.some.inj front
    exact ⟨rfl, by decide⟩
  have label' : LineLabel "Stable tag".toList :=
    ⟨by decide, begins, by decide, by decide, by decide⟩
  have number := (@number_iff "1.2.3".toList "1.2.3".toList []).mp (by decide) |>.2.1
  have copied : Copied "Stable tag".toList "1.2.3".toList readme
      "# Plugin\n\n[Home](https://x.org)\n".toList "Stable tag: 1.2.3".toList
      "\n\n* Item".toList :=
    ⟨rfl, by decide, ⟨[], [' '], rfl, by decide, by decide, number⟩, stops_cons rfl _,
      by decide +kernel, by decide +kernel⟩
  exact ⟨label', copied, copied_version_is_published label' copied "# Changes".toList⟩

/-- A declaration that an underline makes a heading of is not published as it stands: marks come
in front of it. -/
theorem heading_hides_version : ¬ ∀ (readme changelog label version : Text),
    (∀ c ∈ label, Pattern.isMeta c = false) → find readme label = some version →
      find (Readme.build readme changelog) label = some version := by
  intro claim
  have free : "Stable tag".toList.all (fun c => !Pattern.isMeta c) = true := rfl
  have published := claim "Stable tag: 1.0.0\n===".toList [] "Stable tag".toList "1.0.0".toList
    (fun c inside => by simpa using List.all_eq_true.mp free c inside) (by decide +kernel)
  exact absurd published (by decide +kernel)

end PluginReadme.KeptVersion
