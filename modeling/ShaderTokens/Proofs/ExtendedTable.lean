import ShaderTokens.Lexicon.Basic

/-!
# Extended tables

A table made of pairs lists no category twice.  It can be extended when it lists every category that
is given more words.  The extended table then lists the same categories, each with the added words
behind its own.
-/

namespace ShaderTokens.WordTable

variable {base extensions extended : WordTable} {category : Category}

def words (table : WordTable) (category : Category) : List String :=
  ((table.find? (·.1 = category)).map Prod.snd).getD []

def added (extensions : WordTable) (category : Category) : List String :=
  extensions.flatMap fun extension => if extension.1 = category then extension.2 else []

def misses (table : WordTable) (extension : Category × List String) : Bool :=
  !extension.2.isEmpty && !table.any (·.1 = extension.1)

def merged (base extensions : WordTable) : WordTable :=
  base.map fun entry => (entry.1, entry.2 ++ extensions.added entry.1)

/-! ## Tables from pairs -/

private theorem map_fst_replace (table : WordTable) (pair : Category × List String) :
    (table.map fun entry => if entry.1 = pair.1 then pair else entry).map Prod.fst =
      table.map Prod.fst := by
  rw [List.map_map]
  apply List.map_congr_left
  intro entry _
  by_cases hcategory : entry.1 = pair.1 <;> simp [hcategory]

/-- A table from pairs lists no category twice. -/
theorem nodup_ofPairs (pairs : List (Category × List String)) :
    ((ofPairs pairs).map Prod.fst).Nodup := by
  unfold ofPairs
  apply List.foldlRecOn (motive := fun table : WordTable => (table.map Prod.fst).Nodup)
  · exact List.nodup_nil
  · intro table hdistinct pair _
    split
    next => rwa [map_fst_replace]
    next hfresh =>
      have hnew : pair.1 ∉ table.map Prod.fst := by simpa using hfresh
      rw [List.map_append, List.map_singleton]
      refine List.nodup_append.mpr ⟨hdistinct, by simp, ?_⟩
      rintro category hcategory _ hpair rfl
      exact hnew (List.mem_singleton.mp hpair ▸ hcategory)

/-! ## Adding words -/

@[simp] theorem added_cons (extension : Category × List String) (others : WordTable)
    (category : Category) :
    added (extension :: others) category =
      (if extension.1 = category then extension.2 else []) ++ added others category := rfl

private theorem exists_of_mem_added {word : String} (h : word ∈ extensions.added category) :
    ∃ given, (category, given) ∈ extensions ∧ word ∈ given := by
  obtain ⟨⟨listed, given⟩, hgiven, hword⟩ := List.mem_flatMap.mp h
  split at hword
  next hcategory => exact ⟨given, hcategory ▸ hgiven, hword⟩
  next => contradiction

@[simp] theorem merged_nil : base.merged [] = base := by
  simp [merged, added]

theorem merged_append (category : Category) (words : List String) :
    (base.append category words).merged extensions =
      base.merged ((category, words) :: extensions) := by
  rw [merged, append, List.map_map]
  apply List.map_congr_left
  intro entry _
  by_cases hcategory : entry.1 = category
  · simp [hcategory]
  · simp [hcategory, Ne.symm hcategory]

@[simp] theorem map_fst_merged : (base.merged extensions).map Prod.fst = base.map Prod.fst := by
  rw [merged, List.map_map]
  rfl

@[simp] theorem append_nil (category : Category) : base.append category [] = base := by
  simp [append]

@[simp] theorem misses_append (category : Category) (words : List String) :
    (base.append category words).misses = base.misses := by
  have hsame : (fun entry : Category × List String => Prod.fst
      (if entry.1 = category then (entry.1, entry.2 ++ words) else entry)) = Prod.fst := by
    funext entry
    by_cases hcategory : entry.1 = category <;> simp [hcategory]
  funext extension
  simp only [misses, append, List.any_map, Function.comp_def, congrFun hsame]

theorem extend_cons (extension : Category × List String) (others : WordTable) :
    base.extend (extension :: others) =
      if base.misses extension then .error (.emptyCategory extension.1)
      else (base.append extension.1 extension.2).extend others := by
  rw [extend, List.foldlM_cons, misses]
  by_cases hempty : extension.2.isEmpty = true
  · rw [if_pos hempty, hempty, List.isEmpty_iff.mp hempty, append_nil]
    rfl
  · by_cases hlisted : base.any (·.1 = extension.1) = true
    · rw [if_neg hempty, if_pos hlisted, hlisted, Bool.not_true, Bool.and_false]
      rfl
    · rw [if_neg hempty, if_neg hlisted, Bool.of_not_eq_true hempty,
        Bool.of_not_eq_true hlisted]
      rfl

/-! ## Outcomes -/

theorem extend_of_misses {extension : Category × List String}
    (h : extensions.find? base.misses = some extension) :
    base.extend extensions = .error (.emptyCategory extension.1) := by
  induction extensions generalizing base with
  | nil => contradiction
  | cons first others ih =>
      rw [extend_cons]
      by_cases hfirst : base.misses first = true
      · rw [List.find?_cons_of_pos hfirst] at h
        rw [if_pos hfirst, Option.some.inj h]
      · rw [List.find?_cons_of_neg hfirst] at h
        rw [if_neg hfirst]
        apply ih
        rw [misses_append, h]

theorem extend_eq_merged (h : extensions.find? base.misses = none) :
    base.extend extensions = .ok (base.merged extensions) := by
  induction extensions generalizing base with
  | nil => exact congrArg Except.ok merged_nil.symm
  | cons first others ih =>
      obtain ⟨hfirst, hothers⟩ := List.forall_mem_cons.mp (List.find?_eq_none.mp h)
      rw [extend_cons, if_neg hfirst, ih, merged_append]
      rw [misses_append]
      exact List.find?_eq_none.mpr hothers

theorem eq_merged_of_extend (h : base.extend extensions = .ok extended) :
    extensions.find? base.misses = none ∧ extended = base.merged extensions := by
  cases hmissing : extensions.find? base.misses with
  | none =>
      rw [extend_eq_merged hmissing] at h
      exact ⟨rfl, (Except.ok.inj h).symm⟩
  | some extension =>
      rw [extend_of_misses hmissing] at h
      contradiction

theorem eq_of_extend_eq_error {error : LexiconError} (h : base.extend extensions = .error error) :
    ∃ category, error = .emptyCategory category := by
  cases hmissing : extensions.find? base.misses with
  | none =>
      rw [extend_eq_merged hmissing] at h
      contradiction
  | some extension =>
      rw [extend_of_misses hmissing] at h
      exact ⟨extension.1, (Except.error.inj h).symm⟩

theorem exists_extend_eq_ok (h : ∀ extension ∈ extensions, extension.1 ∈ base.map Prod.fst) :
    ∃ words, base.extend extensions = .ok words := by
  refine ⟨_, extend_eq_merged (List.find?_eq_none.mpr fun extension hextension => ?_)⟩
  have hlisted : base.any (·.1 = extension.1) = true := by simpa using h extension hextension
  simp [misses, hlisted]

theorem extend_of_forall_eq_nil (h : ∀ extension ∈ extensions, extension.2 = []) :
    base.extend extensions = .ok base := by
  have hmissing : extensions.find? base.misses = none := by
    rw [List.find?_eq_none]
    intro extension hextension
    simp [misses, h extension hextension]
  have hadded : ∀ category, extensions.added category = [] := by
    intro category
    rw [added, List.flatMap_eq_nil_iff]
    intro extension hextension
    simp [h extension hextension]
  rw [extend_eq_merged hmissing]
  simp [merged, hadded]

theorem exists_of_mem_extend (h : base.extend extensions = .ok extended)
    {entry : Category × List String} (hentry : entry ∈ extended) {word : String}
    (hword : word ∈ entry.2) :
    ∃ given, (entry.1, given) ∈ base ++ extensions ∧ word ∈ given := by
  obtain ⟨-, rfl⟩ := eq_merged_of_extend h
  obtain ⟨listed, hlisted, rfl⟩ := List.mem_map.mp hentry
  rcases List.mem_append.mp hword with hown | hadded
  · exact ⟨listed.2, List.mem_append_left _ hlisted, hown⟩
  · obtain ⟨given, hgiven, hmem⟩ := exists_of_mem_added hadded
    exact ⟨given, List.mem_append_right _ hgiven, hmem⟩

@[simp] theorem words_cons (entry : Category × List String) (others : WordTable)
    (category : Category) :
    words (entry :: others) category =
      if entry.1 = category then entry.2 else words others category := by
  by_cases hcategory : entry.1 = category <;> simp [words, hcategory]

theorem words_of_notMem (h : category ∉ base.map Prod.fst) : base.words category = [] := by
  have habsent : base.find? (·.1 = category) = none := by
    rw [List.find?_eq_none]
    intro entry hentry hcategory
    exact h (List.mem_map.mpr ⟨entry, hentry, of_decide_eq_true hcategory⟩)
  rw [words, habsent]
  rfl

private theorem added_of_notMem (hmissing : extensions.find? base.misses = none)
    (h : category ∉ base.map Prod.fst) : extensions.added category = [] := by
  rw [added, List.flatMap_eq_nil_iff]
  intro extension hextension
  split
  next hcategory =>
    have hlisted : base.any (·.1 = extension.1) = false := by
      rw [List.any_eq_false]
      intro entry hentry hentryCategory
      have heq : entry.1 = category := (of_decide_eq_true hentryCategory).trans hcategory
      exact h (List.mem_map.mpr ⟨entry, hentry, heq⟩)
    simpa [misses, hlisted] using List.find?_eq_none.mp hmissing extension hextension
  next => rfl

private theorem words_merged (h : category ∈ base.map Prod.fst) :
    (base.merged extensions).words category = base.words category ++ extensions.added category := by
  induction base with
  | nil => simp at h
  | cons entry others ih =>
      have hmerged : merged (entry :: others) extensions =
          (entry.1, entry.2 ++ extensions.added entry.1) :: merged others extensions := rfl
      rw [hmerged, words_cons, words_cons]
      by_cases hcategory : entry.1 = category
      · rw [if_pos hcategory, if_pos hcategory, hcategory]
      · have hothers : category ∈ others.map Prod.fst := by simpa [Ne.symm hcategory] using h
        rw [if_neg hcategory, if_neg hcategory, ih hothers]

theorem words_of_extend (h : base.extend extensions = .ok extended) (category : Category) :
    extended.words category = base.words category ++ extensions.added category := by
  obtain ⟨hmissing, rfl⟩ := eq_merged_of_extend h
  by_cases hlisted : category ∈ base.map Prod.fst
  · exact words_merged hlisted
  · rw [words_of_notMem hlisted, added_of_notMem hmissing hlisted, words_of_notMem]
    · rfl
    · rwa [map_fst_merged]

end ShaderTokens.WordTable
