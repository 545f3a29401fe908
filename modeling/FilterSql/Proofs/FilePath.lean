import FilterSql.FilePath

/-!
# Expanding paths

`expands_iff`: a text that begins with a tilde and a separator means a path below the home
directory, and any other one a path below the working directory, unless it is absolute. The one
exception is a second separator behind the first: what is behind the first is then an absolute path,
and the home directory is lost.

`expand_idempotent`: an expanded path is absolute and has no white space around it, and such paths
are left alone.
-/

namespace FilterSql.FilePath

open Text

-- ---------------------------------------------------------------------------
-- Joining
-- ---------------------------------------------------------------------------

theorem join_of_isAbsolute {path : String} (h : isAbsolute path = true) (directory : String) :
    join directory path = path := if_pos h

theorem join_cases {path : String} (h : isAbsolute path = false) (directory : String) :
    join directory path = directory ++ "/" ++ path ∧ directory ≠ "" ∨
      join directory path = directory ++ path ∧
        (directory = "" ∨ ∃ parent, directory = parent ++ "/") := by
  unfold join
  rw [if_neg (by simp [h])]
  split
  · rename_i hdir
    simp only [Bool.or_eq_true, String.isEmpty_iff, decide_eq_true_eq] at hdir
    refine .inr ⟨rfl, hdir.imp_right fun hlast => ?_⟩
    obtain ⟨parent, hparent⟩ := List.getLast?_eq_some_iff.mp hlast
    refine ⟨String.ofList parent, ?_⟩
    rw [← String.toList_inj, hparent, String.toList_append, String.toList_ofList]
    rfl
  · rename_i hdir
    simp only [Bool.or_eq_true, String.isEmpty_iff, not_or] at hdir
    exact .inl ⟨rfl, hdir.1⟩

theorem isAbsolute_append {a : String} (h : a ≠ "") (b : String) :
    isAbsolute (a ++ b) = isAbsolute a := by
  obtain ⟨c, cs, hcs⟩ := List.exists_cons_of_ne_nil (mt String.toList_eq_nil_iff.mp h)
  simp [isAbsolute, hcs]

theorem isAbsolute_join (directory path : String) :
    isAbsolute (join directory path) = (isAbsolute directory || isAbsolute path) := by
  cases h : isAbsolute path with
  | true => rw [join_of_isAbsolute h, h, Bool.or_true]
  | false =>
    rw [Bool.or_false]
    rcases join_cases h directory with ⟨hjoin, hne⟩ | ⟨hjoin, rfl | ⟨parent, rfl⟩⟩
    · rw [hjoin, String.append_assoc, isAbsolute_append hne]
    · rw [hjoin, String.empty_append, h]
      rfl
    · exact hjoin ▸ isAbsolute_append (by simp) path

theorem components_append (a b : String) :
    components (a ++ "/" ++ b) = components a ++ components b := by
  have slash : ("/" : String).toList = ['/'] := rfl
  simp only [components, String.toList_append, slash, List.append_assoc, List.splitOn]
  rw [List.singleton_append, List.splitOnP_append_cons _ _ (by simp), List.filter_append,
    List.map_append]

theorem components_empty : components "" = [] := by simp [components]

theorem components_join {path : String} (h : isAbsolute path = false) (directory : String) :
    components (join directory path) = components directory ++ components path := by
  rcases join_cases h directory with ⟨hjoin, -⟩ | ⟨hjoin, rfl | ⟨parent, rfl⟩⟩
  · rw [hjoin, components_append]
  · rw [hjoin, components_empty, String.empty_append, List.nil_append]
  · have whole := components_append parent ""
    rw [String.append_empty, components_empty, List.append_nil] at whole
    rw [hjoin, components_append, whole]

-- ---------------------------------------------------------------------------
-- Below a directory
-- ---------------------------------------------------------------------------

/-- A path with the components of a directory, and then those of a text. -/
structure Below (directory rest path : String) : Prop where
  absolute : isAbsolute path = isAbsolute directory
  components : components path = components directory ++ components rest

theorem below_self (directory : String) : Below directory "" directory where
  absolute := rfl
  components := by rw [components_empty, List.append_nil]

theorem below_join {rest : String} (h : isAbsolute rest = false) (directory : String) :
    Below directory rest (join directory rest) where
  absolute := by rw [isAbsolute_join, h, Bool.or_false]
  components := components_join h directory

-- ---------------------------------------------------------------------------
-- The tilde
-- ---------------------------------------------------------------------------

/-- The text means a path in the home directory, which has `rest` behind the tilde. -/
inductive HomeRelative (path : String) : (rest : String) → Prop
  | alone (h : trim path = "~") : HomeRelative path ""
  | slash (h : trim path = "~/" ++ rest) : HomeRelative path rest
  | backslash (h : trim path = "~\\" ++ rest) : HomeRelative path rest

/-- The path that a text means, white space around the text aside. -/
structure Expands (s : Surroundings) (path expanded : String) : Prop where
  home : ∀ rest, HomeRelative path rest → Below s.home rest expanded
  literal : (∀ rest, ¬ HomeRelative path rest) →
    if isAbsolute (trim path) then expanded = trim path
    else Below s.workingDirectory (trim path) expanded

variable {s : Surroundings} {path rest : String}

theorem expand_of_blank (s : Surroundings) (h : trim path = "") :
    expand s path = s.workingDirectory := by
  have nothing : trimChars path.toList = [] := by rw [← toList_trim, h]; rfl
  rw [expand, nothing]

theorem expand_of_ne_blank (s : Surroundings) (h : trim path ≠ "") :
    expand s path = join s.workingDirectory (replaceTilde s.home (trim path).toList) := by
  obtain ⟨c, cs, hcs⟩ := List.exists_cons_of_ne_nil (mt String.toList_eq_nil_iff.mp h)
  rw [toList_trim] at hcs
  rw [expand, toList_trim, hcs]

theorem replaceTilde_of_not_homeRelative (h : ∀ rest, ¬ HomeRelative path rest) (home : String) :
    replaceTilde home (trim path).toList = trim path := by
  unfold replaceTilde
  split
  · rename_i alone
    exact absurd (.alone (String.toList_inj.mp alone)) (h "")
  · rename_i rest slash
    refine absurd (.slash (String.toList_inj.mp ?_)) (h (String.ofList rest))
    simp [slash]
  · rename_i rest backslash
    refine absurd (.backslash (String.toList_inj.mp ?_)) (h (String.ofList rest))
    simp [backslash]
  · exact String.ofList_toList

theorem HomeRelative.expand_cases (h : HomeRelative path rest) (home : isAbsolute s.home = true) :
    expand s path = s.home ∧ rest = "" ∨ expand s path = join s.home rest := by
  have nonblank : trim path ≠ "" := by
    rcases h with h | h | h <;> simp [h]
  rw [expand_of_ne_blank s nonblank]
  cases h with
  | alone h =>
    rw [h]
    exact .inl ⟨join_of_isAbsolute home _, rfl⟩
  | slash h | backslash h =>
    have tilde : replaceTilde s.home (trim path).toList = join s.home rest := by
      simp [h, replaceTilde]
    rw [tilde]
    exact .inr (join_of_isAbsolute (by rw [isAbsolute_join, home, Bool.true_or]) _)

theorem expand_of_not_homeRelative (s : Surroundings) (h : ∀ rest, ¬ HomeRelative path rest) :
    if isAbsolute (trim path) then expand s path = trim path
    else Below s.workingDirectory (trim path) (expand s path) := by
  rcases Decidable.em (trim path = "") with blank | nonblank
  · rw [expand_of_blank s blank, blank]
    exact below_self s.workingDirectory
  · rw [expand_of_ne_blank s nonblank, replaceTilde_of_not_homeRelative h]
    cases absolute : isAbsolute (trim path) with
    | true =>
      rw [if_pos rfl]
      exact join_of_isAbsolute absolute _
    | false =>
      rw [if_neg Bool.false_ne_true]
      exact below_join absolute _

/-- A text that begins with a tilde and a separator means what is behind them in the home directory,
unless this is an absolute path and the home directory is not the root. Every other text means
itself, in the working directory if it is relative. -/
theorem expands_iff (s : Surroundings) (path : String) (home : isAbsolute s.home = true) :
    Expands s path (expand s path) ↔
      ∀ rest, HomeRelative path rest → isAbsolute rest = true → components s.home = [] := by
  constructor
  · intro law rest tilde absolute
    have below := (law.home rest tilde).components
    rcases tilde.expand_cases home with ⟨-, rfl⟩ | hexpand
    · cases absolute
    · rw [hexpand, join_of_isAbsolute absolute] at below
      exact List.self_eq_append_left.mp below
  · intro root
    refine ⟨fun rest tilde => ?_, expand_of_not_homeRelative s⟩
    rcases tilde.expand_cases home with ⟨hexpand, rfl⟩ | hexpand
    · exact hexpand ▸ below_self s.home
    · rw [hexpand]
      cases absolute : isAbsolute rest with
      | false => exact below_join absolute s.home
      | true =>
        rw [join_of_isAbsolute absolute]
        refine ⟨by rw [absolute, home], ?_⟩
        rw [root rest tilde absolute, List.nil_append]

def visitor : Surroundings where
  home := "/home/visitor"
  workingDirectory := "/"

/-- A separator inside the text behind the tilde does no harm. -/
theorem expands_iff_doubledInside : isAbsolute visitor.home = true ∧
    expand visitor " ~\\a//b\n" = "/home/visitor/a//b" ∧
    Expands visitor " ~\\a//b\n" (expand visitor " ~\\a//b\n") := by
  refine ⟨rfl, by decide +kernel, ?_⟩
  refine (expands_iff visitor _ rfl).mpr fun rest tilde absolute => ?_
  have stripped : trim " ~\\a//b\n" = "~\\a//b" := by decide +kernel
  rcases tilde with h | h | h
  · exact absurd (stripped.symm.trans h) (by decide)
  · rw [stripped, ← String.toList_inj] at h
    simp at h
  · rw [stripped, ← String.toList_inj] at h
    have relative : rest = "a//b" := by
      rw [← String.toList_inj]
      simpa using h.symm
    subst relative
    exact absurd absolute (by decide)

/-- Two slashes behind the tilde lead out of the home directory. -/
theorem not_expands_doubledSlash : expand visitor "~//x" = "/x" ∧
    ¬ Expands visitor "~//x" (expand visitor "~//x") := by
  have outside : expand visitor "~//x" = "/x" := by decide +kernel
  refine ⟨outside, fun law => ?_⟩
  have below := (law.home "/x" (.slash (by decide +kernel))).components
  rw [outside] at below
  exact absurd below (by decide +kernel)

-- ---------------------------------------------------------------------------
-- Expanded paths
-- ---------------------------------------------------------------------------

/-- An absolute path without white space around it. -/
structure Settled (path : String) : Prop where
  absolute : isAbsolute path = true
  stripped : trim path = path

def EndsVisibly (path : String) : Prop := ∀ c ∈ path.toList.getLast?, isWhiteSpace c = false

theorem EndsVisibly.append {a b : String} (ha : EndsVisibly a) (hb : EndsVisibly b) :
    EndsVisibly (a ++ b) := by
  intro c hc
  rw [String.toList_append, List.getLast?_append, Option.mem_def, Option.or_eq_some_iff] at hc
  rcases hc with hc | ⟨-, hc⟩
  · exact hb c hc
  · exact ha c hc

theorem endsVisibly_trim (path : String) : EndsVisibly (trim path) := by
  rw [EndsVisibly, toList_trim]
  exact isWhiteSpace_getLast?_trimChars _

theorem EndsVisibly.of_append {a b : String} (h : EndsVisibly (a ++ b)) : EndsVisibly b := by
  intro c hc
  refine h c ?_
  rw [String.toList_append, List.getLast?_append, hc, Option.some_or]
  exact rfl

theorem EndsVisibly.join {directory path : String} (hd : EndsVisibly directory)
    (hp : EndsVisibly path) : EndsVisibly (join directory path) := by
  cases absolute : isAbsolute path with
  | true => rwa [join_of_isAbsolute absolute]
  | false =>
    rcases join_cases absolute directory with ⟨hjoin, -⟩ | ⟨hjoin, -⟩
    · have slash : EndsVisibly "/" := by
        intro c hc
        obtain rfl := Option.some.inj hc
        decide
      exact hjoin ▸ (hd.append slash).append hp
    · exact hjoin ▸ hd.append hp

theorem settled_iff : Settled path ↔ isAbsolute path = true ∧ EndsVisibly path := by
  constructor
  · intro h
    exact ⟨h.absolute, h.stripped ▸ endsVisibly_trim path⟩
  · rintro ⟨absolute, visible⟩
    refine ⟨absolute, ?_⟩
    have first : ∀ c ∈ path.toList.head?, isWhiteSpace c = false := by
      intro c hc
      have slash : path.toList.head? = some '/' := by simpa [isAbsolute] using absolute
      rw [slash] at hc
      obtain rfl := Option.some.inj hc
      decide
    rw [trim, trimChars_eq_self first visible, String.ofList_toList]

theorem endsVisibly_replaceTilde {home : String} (hhome : EndsVisibly home)
    (hpath : EndsVisibly path) : EndsVisibly (replaceTilde home path.toList) := by
  unfold replaceTilde
  split
  · exact hhome
  · rename_i rest hrest
    have split : path = "~/" ++ String.ofList rest := by
      rw [← String.toList_inj, hrest]
      simp
    exact hhome.join (split ▸ hpath).of_append
  · rename_i rest hrest
    have split : path = "~\\" ++ String.ofList rest := by
      rw [← String.toList_inj, hrest]
      simp
    exact hhome.join (split ▸ hpath).of_append
  · rwa [String.ofList_toList]

theorem settled_expand (s : Surroundings) (home : Settled s.home)
    (here : Settled s.workingDirectory) (path : String) : Settled (expand s path) := by
  by_cases blank : trim path = ""
  · exact expand_of_blank s blank ▸ here
  · rw [expand_of_ne_blank s blank]
    refine settled_iff.mpr ⟨?_, ?_⟩
    · rw [isAbsolute_join, here.absolute, Bool.true_or]
    · exact (settled_iff.mp here).2.join
        (endsVisibly_replaceTilde (settled_iff.mp home).2 (endsVisibly_trim path))

theorem Settled.expand_eq (h : Settled path) (s : Surroundings) : expand s path = path := by
  have literal : ∀ rest, ¬ HomeRelative path rest := by
    have absolute := h.absolute
    rintro rest (tilde | tilde | tilde) <;> rw [← h.stripped, tilde] at absolute <;>
      simp [isAbsolute] at absolute
  have expanded := expand_of_not_homeRelative s literal
  rwa [h.stripped, if_pos h.absolute] at expanded

/-- Expanding gives a settled path, which expanding again leaves alone: a data directory may be
asked for by either text. -/
theorem expand_idempotent (s : Surroundings) (home : Settled s.home)
    (here : Settled s.workingDirectory) (path : String) :
    Settled (expand s path) ∧ expand s (expand s path) = expand s path ∧
      Storage.dataDirectory s (some (expand s path)) = Storage.dataDirectory s (some path) := by
  have settled := settled_expand s home here path
  exact ⟨settled, settled.expand_eq s, settled.expand_eq s⟩

/-- What is behind the tilde may begin with white space, or with another tilde. -/
theorem expand_idempotent_tildes : Settled visitor.home ∧ Settled visitor.workingDirectory ∧
    expand visitor "~/ ~/x\t" = "/home/visitor/ ~/x" ∧
    expand visitor (expand visitor "~/ ~/x\t") = expand visitor "~/ ~/x\t" := by
  have home : Settled visitor.home := ⟨rfl, by decide +kernel⟩
  have here : Settled visitor.workingDirectory := ⟨rfl, by decide +kernel⟩
  exact ⟨home, here, by decide +kernel, (expand_idempotent visitor home here _).2.1⟩

end FilterSql.FilePath
