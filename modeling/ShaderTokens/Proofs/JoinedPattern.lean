import ShaderTokens.Lexicon.Basic
import ShaderTokens.Proofs.ForwardReading

/-!
# Reading joined words

Words that are patterns of their own are joined as alternatives between word boundaries, as text.
Reading that text yields the patterns of the words as alternatives, unless one of the words sets
flags for the whole pattern: behind the first word boundary it is too late for them.
-/

namespace ShaderTokens.Pattern

open PatternSymbol Reader

/-! ## Symbols of joined text -/

theorem ofText_append {text : List Char}
    (hbackslash : ∀ front, ofText text ≠ front ++ [loneBackslash]) (others : List Char) :
    ofText (text ++ others) = ofText text ++ ofText others := by
  fun_induction ofText text with
  | case1 => rfl
  | case2 => exact absurd rfl (hbackslash [])
  | case3 char text ih =>
      rw [List.cons_append, List.cons_append, ofText, ih]
      · rfl
      · intro front hfront
        exact hbackslash (escaped char :: front) (by rw [hfront]; rfl)
  | case4 char text hlast hescape ih =>
      have hchar : char ≠ '\\' := by
        rintro rfl
        cases text with
        | nil => exact hlast rfl rfl
        | cons char text => exact hescape char text rfl rfl
      rw [List.cons_append, ofText, ih]
      · rfl
      · intro front hfront
        exact hbackslash (plain char :: front) (by rw [hfront]; rfl)
      · simp [hchar]
      · simp [hchar]

@[simp] theorem ofText_cons {char : Char} (hchar : char ≠ '\\') (text : List Char) :
    ofText (char :: text) = plain char :: ofText text := by
  rw [ofText]
  · simp [hchar]
  · simp [hchar]

theorem ofText_append_literals {chars : List Char} (h : ∀ char ∈ chars, isLiteral char = true)
    (others : List Char) : ofText (chars ++ others) = chars.map plain ++ ofText others := by
  induction chars with
  | nil => rfl
  | cons char chars ih =>
      obtain ⟨hchar, hchars⟩ := List.forall_mem_cons.mp h
      rw [List.cons_append, ofText_cons (ne_of_isLiteral hchar rfl), ih hchars]
      rfl

/-! ## Fragments -/

def ofWord (word : String) : Pattern :=
  match Pattern.read word with
  | .ok expression => expression.pattern
  | .error _ => empty

def wholeFlags (word : String) : List Flag :=
  match readSymbols (ofText word.toList) with
  | .ok progress => progress.wholeFlags
  | .error _ => []

/-- A word that is a pattern of its own and has no capture groups. -/
def IsFragment (word : String) : Prop :=
  ∃ expression, Pattern.read word = .ok expression ∧ expression.captures = 0

theorem IsFragment.exists_reads {word : String} (h : IsFragment word) :
    ∃ finished, Reads word finished ∧ finished.groups.captures = 0 ∧
      ofWord word = finished.frame.pattern ∧ wholeFlags word = finished.wholeFlags := by
  obtain ⟨expression, hread, hcaptures⟩ := h
  obtain ⟨finished, hfinished, rfl⟩ := exists_reads_of_read_eq_ok hread
  exact ⟨finished, hfinished, hcaptures, by rw [ofWord, hread],
    by rw [wholeFlags, hfinished.read_eq_ok.1]⟩

theorem IsFragment.defect?_ofWord {word : String} (h : IsFragment word)
    (hflags : wholeFlags word = []) : (ofWord word).defect? false = none := by
  obtain ⟨finished, hfinished, -, hpattern, hfinishedFlags⟩ := h.exists_reads
  have hrunnable := hfinished.runnable
  rw [← hfinishedFlags, hflags, ← hpattern] at hrunnable
  exact hrunnable

/-! ## Fragments in groups -/

structure Progress.IsClean (progress : Progress) : Prop where
  groups : progress.groups = {}
  wholeFlags : progress.wholeFlags = []
  conditions : ∀ condition ∈ progress.conditions, condition.1 = 0

/-- Where a word may begin: in a plain group without flags, at the start of a branch. -/
structure Progress.AtWord (progress : Progress) : Prop where
  enclosure : progress.frame.enclosure = .plain
  mode : progress.frame.mode = {}
  lookbehindLimit : progress.frame.lookbehindLimit = none
  items : progress.frame.items = []
  clean : progress.IsClean

theorem inside_nothing : Inside [] {} {} where
  frame := ⟨[], rfl⟩
  outer := ⟨[], rfl, .nil⟩
  groups := rfl
  mode := by simp
  counted := .inr ⟨rfl, by simp [Frame.outermost]⟩
  wholeFlags := rfl
  unflagged := by simp
  conditions := List.forall_mem_nil _

theorem inside_wordStart {progress : Progress} (h : progress.AtWord) (here : List PatternSymbol) :
    Inside (progress.frame :: progress.outer) {}
      { progress with
        frame := progress.frame.enclose progress.groups .plain here {}
        outer := progress.frame :: progress.outer } where
  frame := ⟨here, by simp [Frame.enclose, Frame.outermost, h.lookbehindLimit]⟩
  outer := ⟨[], rfl, .nil⟩
  groups := h.clean.groups
  mode := fun _ => rfl
  counted := .inr ⟨rfl, by simp [Frame.outermost]⟩
  wholeFlags := h.clean.wholeFlags
  unflagged := fun _ => rfl
  conditions := fun condition hcondition => .inl (h.clean.conditions condition hcondition)

/-- A fragment that can be read on its own does not end in a backslash, so what is put behind it
leaves its symbols as they are. -/
theorem Reads.ofText_append {word : String} {finished : Progress} (h : Reads word finished)
    (others : List Char) :
    ofText (word.toList ++ others) = ofText word.toList ++ ofText others := by
  refine Pattern.ofText_append (fun front hfront => ?_) others
  have hplace : Continues [] (ofText word.toList) (ofText word.toList) := by
    refine ⟨(List.append_nil _).symm, .inr ⟨rfl, front, ?_, hfront⟩⟩
    rintro rfl
    exact h.start hfront
  rcases run_untilDone_cases inside_nothing (by simp) hplace h.run with
    ⟨_, -, -, -, htail⟩ | ⟨-, hhost, -⟩
  · exact htail rfl
  · exact hhost rfl

theorem append_close_ne_backslash (front rest : List PatternSymbol) :
    front ++ plain ')' :: rest ≠ [loneBackslash] := by
  intro heq
  rcases List.append_eq_singleton_iff.mp heq with ⟨-, hclose⟩ | ⟨-, hclose⟩ <;> simp at hclose

def wordGroup (word : String) : List PatternSymbol :=
  plain '(' :: plain '?' :: plain ':' :: (ofText word.toList ++ [plain ')'])

structure Progress.TakesIn (progress : Progress) (pattern : Pattern) (following : Progress) :
    Prop where
  frame : following.frame = progress.frame.addItem pattern .other
  outer : following.outer = progress.outer
  clean : following.IsClean

private theorem takesIn_closeGroup {progress finished joined : Progress}
    (hinside : Inside (progress.frame :: progress.outer) finished joined)
    (hcaptures : finished.groups.captures = 0)
    (hconditions : ∀ condition ∈ finished.conditions, condition.1 < finished.groups.opened) :
    progress.TakesIn finished.frame.pattern
      (closeGroup joined progress.frame progress.outer) := by
  have huncaptured : finished.groups = {} ∧
      ∀ group, finished.frame.enclosure ≠ .capture group := by
    rcases hinside.counted with hcounted | ⟨hempty, hframes⟩
    · simp only [Groups.captures] at hcaptures
      omega
    · exact ⟨hempty, hframes finished.frame (by simp)⟩
  refine ⟨?_, rfl, ?_, ?_, ?_⟩
  · rw [closeGroup, hinside.frame.pattern_eq]
  · rw [closeGroup, hinside.frame.enclosure_eq, hinside.groups, huncaptured.1]
    dsimp only
    split
    next group hcapture => exact absurd hcapture (huncaptured.2 group)
    next => rfl
  · exact hinside.wholeFlags.trans (hinside.unflagged (by simp))
  · -- without groups a condition of the word can only be about the whole pattern
    intro condition hcondition
    rcases hinside.conditions condition hcondition with hzero | hmem
    · exact hzero
    · obtain ⟨condition', hcondition', heq⟩ := List.mem_map.mp hmem
      have hlt := hconditions condition' hcondition'
      rw [huncaptured.1, heq] at hlt
      exact Nat.lt_one_iff.mp hlt

theorem wordGroup_cases {word : String} (hfragment : IsFragment word) {progress : Progress}
    (hword : progress.AtWord) {rest : List PatternSymbol} (hrest : rest ≠ [loneBackslash]) :
    (∃ following, Reaches progress (wordGroup word ++ rest) following rest ∧
      progress.TakesIn (ofWord word) following ∧ wholeFlags word = []) ∨
    (IsRefused progress (wordGroup word ++ rest) ∧ wholeFlags word ≠ []) := by
  obtain ⟨finished, hread, hcaptures, hpattern, hfinishedFlags⟩ := hfragment.exists_reads
  rw [hpattern, hfinishedFlags]
  have hgroup : wordGroup word ++ rest =
      plain '(' :: plain '?' :: plain ':' :: (ofText word.toList ++ plain ')' :: rest) := by
    simp [wordGroup]
  obtain ⟨here, hopen⟩ :=
    run_readStep_openPlain hword.mode (append_close_ne_backslash (ofText word.toList) rest)
  have hplace : Continues (plain ')' :: rest) (ofText word.toList)
      (ofText word.toList ++ plain ')' :: rest) := ⟨rfl, .inl rfl⟩
  have hopened := Reaches.step hopen (by simp; omega) (.refl _ _)
  rw [hgroup]
  rcases run_untilDone_cases (inside_wordStart hword here) (by simp) hplace hread.run with
    ⟨joined, hreach, hinside, houter, -⟩ | ⟨hrefused, -, hflags⟩
  · left
    obtain ⟨outer, hjoinedOuter, halike⟩ := hinside.outer
    rw [houter] at halike
    cases halike
    have hclosed := Reaches.of_step (run_readStep_close hjoinedOuter hrest)
    exact ⟨_, hopened.trans (hreach.trans hclosed),
      takesIn_closeGroup hinside hcaptures hread.conditions, hinside.unflagged (by simp)⟩
  · exact .inr ⟨hopened.isRefused hrefused, hflags⟩

/-! ## Joins -/

theorem ofText_wordGroup {word : String} (h : IsFragment word) (others : List Char) :
    ofText (("(?:" ++ word ++ ")").toList ++ others) = wordGroup word ++ ofText others := by
  obtain ⟨finished, hfinished, -⟩ := h.exists_reads
  have hword := hfinished.ofText_append (')' :: others)
  rw [ofText_cons (by decide)] at hword
  simp only [String.toList_append, List.append_assoc]
  change ofText ('(' :: '?' :: ':' :: (word.toList ++ ')' :: others)) = _
  rw [ofText_cons (by decide), ofText_cons (by decide), ofText_cons (by decide), hword, wordGroup]
  simp

private theorem ofText_intercalate {words : List String} (hwords : ∀ word ∈ words, IsFragment word)
    (others : List Char) :
    ofText ((String.intercalate "|" (words.map fun word => "(?:" ++ word ++ ")")).toList ++
        others) =
      [plain '|'].intercalate (words.map wordGroup) ++ ofText others := by
  rw [String.toList_intercalate, List.map_map]
  induction words with
  | nil => rfl
  | cons word words ih =>
      have hword := hwords word (by simp)
      cases words with
      | nil => simpa using ofText_wordGroup hword others
      | cons second words =>
          have hothers := ih fun word hmem => hwords word (List.mem_cons_of_mem _ hmem)
          have hbar : ("|" : String).toList = ['|'] := rfl
          rw [List.map_cons, List.map_cons, List.intercalate_cons_cons, hbar, List.append_assoc,
            List.append_assoc, Function.comp_apply, ofText_wordGroup hword, List.singleton_append,
            ofText_cons (by decide), ← hbar]
          rw [List.map_cons] at hothers
          rw [hothers, List.map_cons, List.map_cons, List.map_cons, List.intercalate_cons_cons]
          simp

structure Progress.TakesInAll (progress : Progress) (patterns : List Pattern)
    (following : Progress) : Prop where
  branches : following.frame.allBranches =
    progress.frame.branches.reverse ++ patterns.map fun pattern => sequence [pattern]
  enclosure : following.frame.enclosure = .plain
  outer : following.outer = progress.outer
  clean : following.IsClean

namespace Progress.TakesIn

variable {progress following : Progress} {pattern : Pattern}

theorem takesInAll (h : progress.TakesIn pattern following) (hword : progress.AtWord) :
    progress.TakesInAll [pattern] following where
  branches := by
    rw [h.frame]
    simp [Frame.addItem, Frame.allBranches, Frame.branch, hword.items]
  enclosure := by
    rw [h.frame]
    exact hword.enclosure
  outer := h.outer
  clean := h.clean

private theorem atWord_nextBranch (h : progress.TakesIn pattern following)
    (hword : progress.AtWord) :
    (following.setFrame following.frame.nextBranch).AtWord := by
  rw [h.frame]
  exact ⟨hword.enclosure, hword.mode, hword.lookbehindLimit, rfl,
    ⟨h.clean.groups, h.clean.wholeFlags, h.clean.conditions⟩⟩

theorem takesInAll_cons (h : progress.TakesIn pattern following) (hword : progress.AtWord)
    {patterns : List Pattern} {last : Progress}
    (hlast : (following.setFrame following.frame.nextBranch).TakesInAll patterns last) :
    progress.TakesInAll (pattern :: patterns) last where
  branches := by
    rw [hlast.branches, Progress.setFrame, h.frame]
    simp [Frame.nextBranch, Frame.addItem, Frame.branch, hword.items]
  enclosure := hlast.enclosure
  outer := hlast.outer.trans h.outer
  clean := hlast.clean

end Progress.TakesIn

private theorem wordGroups_cases {words : List String} (hsome : words ≠ [])
    (hwords : ∀ word ∈ words, IsFragment word) {progress : Progress} (hword : progress.AtWord)
    {rest : List PatternSymbol} (hrest : rest ≠ [loneBackslash]) :
    (∃ following, Reaches progress ([plain '|'].intercalate (words.map wordGroup) ++ rest)
        following rest ∧ progress.TakesInAll (words.map ofWord) following ∧
      ∀ word ∈ words, wholeFlags word = []) ∨
    (IsRefused progress ([plain '|'].intercalate (words.map wordGroup) ++ rest) ∧
      ∃ word ∈ words, wholeFlags word ≠ []) := by
  induction words generalizing progress with
  | nil => contradiction
  | cons word words ih =>
      have hfirst := hwords word List.mem_cons_self
      cases words with
      | nil =>
          rw [List.map_singleton, List.map_singleton, List.intercalate_singleton]
          rcases wordGroup_cases hfirst hword hrest with
            ⟨following, hreach, htaken, hnone⟩ | ⟨hrefused, hsome⟩
          · exact .inl ⟨following, hreach, htaken.takesInAll hword, by simpa using hnone⟩
          · exact .inr ⟨hrefused, word, List.mem_cons_self, hsome⟩
      | cons second words =>
          have hbar : plain '|' :: ([plain '|'].intercalate ((second :: words).map wordGroup) ++
              rest) ≠ [loneBackslash] := by simp
          have hothers : [plain '|'].intercalate ((second :: words).map wordGroup) ++ rest ≠
              [loneBackslash] := by
            cases words <;> simp [wordGroup]
          have hgroups : [plain '|'].intercalate ((word :: second :: words).map wordGroup) ++ rest =
              wordGroup word ++
                plain '|' ::
                  ([plain '|'].intercalate ((second :: words).map wordGroup) ++ rest) := by
            simp [List.intercalate_cons_cons]
          rw [hgroups]
          rcases wordGroup_cases hfirst hword hbar with
            ⟨following, hreach, htaken, hnone⟩ | ⟨hrefused, hsome⟩
          · have henclosure := (htaken.takesInAll hword).enclosure
            have hnext := hreach.trans (.of_step (run_readStep_nextBranch henclosure hothers))
            rcases ih (by simp) (fun word hmem => hwords word (List.mem_cons_of_mem _ hmem))
              (htaken.atWord_nextBranch hword) with
              ⟨last, hlast, htakenLast, hunflagged⟩ | ⟨hrefused, flagged, hflagged, hsome⟩
            · exact .inl ⟨last, hnext.trans hlast, htaken.takesInAll_cons hword htakenLast,
                List.forall_mem_cons.mpr ⟨hnone, hunflagged⟩⟩
            · exact .inr ⟨hnext.isRefused hrefused, flagged, List.mem_cons_of_mem _ hflagged,
                hsome⟩
          · exact .inr ⟨hrefused, word, List.mem_cons_self, hsome⟩

def joinText (words : List String) : String :=
  "\\b(?:" ++ String.intercalate "|" (words.map fun word => "(?:" ++ word ++ ")") ++ ")\\b"

private theorem ofText_joinText {words : List String} (hwords : ∀ word ∈ words, IsFragment word) :
    ofText (joinText words).toList =
      escaped 'b' :: plain '(' :: plain '?' :: plain ':' ::
        ([plain '|'].intercalate (words.map wordGroup) ++ plain ')' :: [escaped 'b']) := by
  rw [joinText, String.toList_append, String.toList_append, List.append_assoc]
  change ofText ('\\' :: 'b' :: '(' :: '?' :: ':' :: (_ ++ [')', '\\', 'b'])) = _
  rw [ofText, ofText_cons (by decide), ofText_cons (by decide), ofText_cons (by decide),
    ofText_intercalate hwords]
  rfl

def joinPattern (words : List String) : Pattern :=
  sequence [anchor (.wordBoundary false),
    alternatives (words.map fun word => sequence [ofWord word]), anchor (.wordBoundary false)]

private theorem defect?_joinPattern {words : List String} (hwords : ∀ word ∈ words, IsFragment word)
    (hflags : ∀ word ∈ words, wholeFlags word = []) : (joinPattern words).defect? false = none := by
  have hbranches : ∀ branch ∈ words.map fun word => sequence [ofWord word],
      branch.defect? false = none := by
    intro branch hbranch
    obtain ⟨word, hword, rfl⟩ := List.mem_map.mp hbranch
    refine defect?_sequence fun part hpart => ?_
    obtain rfl := List.mem_singleton.mp hpart
    exact (hwords word hword).defect?_ofWord (hflags word hword)
  refine defect?_sequence fun part hpart => ?_
  simp only [List.mem_cons, List.not_mem_nil, or_false] at hpart
  rcases hpart with rfl | rfl | rfl
  · rfl
  · exact defect?_alternatives hbranches
  · rfl

structure Progress.IsJoinStart (progress : Progress) : Prop where
  atWord : progress.AtWord
  branches : progress.frame.branches = []
  outer : progress.outer = [Frame.outermost.addItem (.anchor (.wordBoundary false)) .anchor]

private theorem reaches_joinStart {body : List PatternSymbol} (hbody : body ≠ [loneBackslash]) :
    ∃ inner : Progress, inner.IsJoinStart ∧
      Reaches {} (escaped 'b' :: plain '(' :: plain '?' :: plain ':' :: body) inner body := by
  let boundary : Progress := Progress.addItem {} (.anchor (.wordBoundary false)) .anchor
  have hboundary : (readStep {}).run (escaped 'b' :: plain '(' :: plain '?' :: plain ':' :: body) =
      .ok (.inl boundary, plain '(' :: plain '?' :: plain ':' :: body) :=
    run_readStep_wordBoundary rfl (by simp)
  have hmode : boundary.frame.mode = {} := rfl
  obtain ⟨here, hopen⟩ := run_readStep_openPlain hmode hbody
  refine ⟨_, ⟨⟨rfl, rfl, rfl, rfl, rfl, rfl, List.forall_mem_nil _⟩, rfl, rfl⟩,
    (Reaches.of_step hboundary).trans (.step hopen ?_ (.refl _ _))⟩
  simp only [List.length_cons]
  omega

private theorem reaches_joinEnd {words : List String} {inner following : Progress}
    (hinner : inner.IsJoinStart) (htaken : inner.TakesInAll (words.map ofWord) following) :
    ∃ last : Progress, Reaches following (plain ')' :: [escaped 'b']) last [] ∧
      last.outer = [] ∧ last.IsClean ∧ last.frame.pattern = joinPattern words := by
  let parent : Frame := .addItem .outermost (.anchor (.wordBoundary false)) .anchor
  let closed := closeGroup following parent []
  let last := closed.addItem (.anchor (.wordBoundary false)) .anchor
  have hclose := run_readStep_close (htaken.outer.trans hinner.outer)
    (show [escaped 'b'] ≠ [loneBackslash] by simp)
  have hboundary : (readStep closed).run [escaped 'b'] = .ok (.inl last, []) :=
    run_readStep_wordBoundary rfl (by simp)
  have hgroups : last.groups = {} := by
    simp only [last, closed, closeGroup, htaken.enclosure, Progress.addItem, Progress.setFrame]
    exact htaken.clean.groups
  have hbody : following.frame.pattern =
      alternatives (words.map fun word => sequence [ofWord word]) := by
    rw [Frame.pattern, htaken.enclosure, htaken.branches, hinner.branches, List.map_map]
    rfl
  refine ⟨last, .trans (.of_step hclose) (.of_step hboundary), rfl,
    ⟨hgroups, htaken.clean.wholeFlags, htaken.clean.conditions⟩, ?_⟩
  rw [joinPattern, ← hbody]
  rfl

/-- Words that can be read on their own are the alternatives of their join, between word
boundaries, unless one of them sets flags for the whole pattern. -/
theorem read_joinText_cases {words : List String} (hsome : words ≠ [])
    (hwords : ∀ word ∈ words, IsFragment word) :
    (Pattern.read (joinText words) = .ok ⟨joinPattern words, 0⟩ ∧
      ∀ word ∈ words, wholeFlags word = []) ∨
    ((∃ place, Pattern.read (joinText words) = .error (.malformed .flagsNotAtStart place)) ∧
      ∃ word ∈ words, wholeFlags word ≠ []) := by
  have hsymbols := ofText_joinText hwords
  have hstart : ofText (joinText words).toList ≠ [loneBackslash] := by simp [hsymbols]
  obtain ⟨inner, hinner, hopened⟩ := reaches_joinStart
    (append_close_ne_backslash ([plain '|'].intercalate (words.map wordGroup)) [escaped 'b'])
  rw [← hsymbols] at hopened
  have hclosing : plain ')' :: [escaped 'b'] ≠ [loneBackslash] := by simp
  rcases wordGroups_cases hsome hwords hinner.atWord hclosing with
    ⟨following, hreach, htaken, hunflagged⟩ | ⟨hrefused, hflagged⟩
  · refine .inl ⟨?_, hunflagged⟩
    obtain ⟨last, hend, houter, hclean, hpattern⟩ := reaches_joinEnd hinner htaken
    have hreads : Reads (joinText words) last := by
      refine ⟨hstart, (hopened.trans (hreach.trans hend)).run_untilDone houter, ?_, ?_, ?_⟩
      · simp [hclean.wholeFlags]
      · intro condition hcondition
        rw [hclean.conditions condition hcondition, hclean.groups]
        exact Nat.one_pos
      · rw [hclean.wholeFlags, hpattern]
        exact defect?_joinPattern hwords hunflagged
    rw [hreads.read_eq_ok.2, hpattern, hclean.groups]
    rfl
  · refine .inr ⟨?_, hflagged⟩
    obtain ⟨flagged, hrun⟩ := (hopened.isRefused hrefused).run_untilDone
    exact ⟨_, read_eq_error hstart hrun⟩

theorem pattern_of_read_joinText {words : List String} (hsome : words ≠ [])
    (hwords : ∀ word ∈ words, IsFragment word) {expression : Expression}
    (h : Pattern.read (joinText words) = .ok expression) :
    expression.pattern = joinPattern words := by
  rcases read_joinText_cases hsome hwords with ⟨hread, -⟩ | ⟨⟨place, hread⟩, -⟩
  · rw [hread] at h
    cases h
    rfl
  · rw [hread] at h
    cases h

end ShaderTokens.Pattern
