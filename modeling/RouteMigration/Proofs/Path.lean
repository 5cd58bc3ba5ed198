import Mathlib.Data.List.Induction
import Mathlib.Data.List.Pairwise
import RouteMigration.Path
import RouteMigration.Route.Segment

/-!
# Laws of path texts

A path text is built from a directory and the names below it, and it is read back as its
components.  The two are inverse as long as the names are names: not empty, no `.` or `..`, and
without the separator.

## Main Definitions

* `Path.IsName` — a text that stands for itself as a component
* `Path.below` — the path of names below a directory
* `Path.namesBelow` — the names of a path below a directory

## Main Statements

* `Path.components_join` — a name put below a directory is its last component
* `Path.namesBelow_below` — the names below a directory are read back
* `segments_joinWith` — the segments of joined names are the names
-/

namespace RouteMigration

namespace Text

variable {cut : Char → Bool}

/-! ### Pieces -/

theorem splitAt_ne_nil (cut : Char → Bool) (xs : List Char) : splitAt cut xs ≠ [] := by
  cases xs with
  | nil => simp [splitAt]
  | cons x xs =>
    rw [splitAt]
    split
    · simp
    · split <;> simp

/-- A cut ends one piece and begins another. -/
theorem splitAt_append_cons (xs ys : List Char) {c : Char} (hc : cut c = true) :
    splitAt cut (xs ++ c :: ys) = splitAt cut xs ++ splitAt cut ys := by
  induction xs with
  | nil => simp [splitAt, hc]
  | cons x xs ih =>
    rw [List.cons_append, splitAt, splitAt, ih]
    split
    · rw [List.cons_append]
    · obtain ⟨piece, rest, hxs⟩ := List.exists_cons_of_ne_nil (splitAt_ne_nil cut xs)
      simp [hxs]

/-- A text without a cut is one piece. -/
theorem splitAt_eq_singleton {xs : List Char} (h : ∀ c ∈ xs, cut c = false) :
    splitAt cut xs = [xs] := by
  induction xs with
  | nil => rfl
  | cons x xs ih =>
    rw [splitAt, h x (List.mem_cons_self ..), ih fun c hc => h c (List.mem_cons_of_mem x hc)]
    rfl

/-- No piece has a character that the text is cut at. -/
theorem not_cut_of_mem_splitAt {xs piece : List Char} (h : piece ∈ splitAt cut xs) :
    ∀ c ∈ piece, cut c = false := by
  induction xs generalizing piece with
  | nil =>
    rw [splitAt, List.mem_singleton] at h
    subst h
    simp
  | cons x xs ih =>
    rw [splitAt] at h
    split at h
    · rcases List.mem_cons.mp h with rfl | h
      · simp
      · exact ih h
    · next hx =>
      obtain ⟨first, rest, hxs⟩ := List.exists_cons_of_ne_nil (splitAt_ne_nil cut xs)
      rw [hxs] at h ih
      rcases List.mem_cons.mp h with rfl | h
      · intro c hc
        rcases List.mem_cons.mp hc with rfl | hc
        · exact Bool.eq_false_iff.mpr hx
        · exact ih (List.mem_cons_self ..) c hc
      · exact ih (List.mem_cons_of_mem _ h)

/-- The pieces have the characters that the text is not cut at. -/
theorem flatten_splitAt (cut : Char → Bool) (xs : List Char) :
    (splitAt cut xs).flatten = xs.filter (!cut ·) := by
  induction xs with
  | nil => rfl
  | cons x xs ih =>
    rw [splitAt]
    split
    next hx => rw [List.flatten_cons, List.nil_append, ih, List.filter_cons_of_neg (by simp [hx])]
    next hx =>
      obtain ⟨first, rest, hxs⟩ := List.exists_cons_of_ne_nil (splitAt_ne_nil cut xs)
      rw [hxs, List.flatten_cons] at ih
      rw [hxs, List.filter_cons_of_pos (by simp [hx]), ← ih]
      rfl

/-- A text that is one piece is that piece. -/
theorem eq_of_splitAt_eq_singleton {xs piece : List Char} (h : splitAt cut xs = [piece]) :
    piece = xs := by
  induction xs generalizing piece with
  | nil => simpa [splitAt] using h.symm
  | cons x xs ih =>
    rw [splitAt] at h
    split at h
    · exact absurd (List.cons.inj h).2 (splitAt_ne_nil cut xs)
    · obtain ⟨first, rest, hxs⟩ := List.exists_cons_of_ne_nil (splitAt_ne_nil cut xs)
      rw [hxs] at h
      obtain ⟨rfl, rfl⟩ := List.cons.inj h
      rw [ih hxs]

/-- A text has one piece more than cuts. -/
theorem length_splitAt (cut : Char → Bool) (xs : List Char) :
    (splitAt cut xs).length = xs.countP cut + 1 := by
  induction xs with
  | nil => rfl
  | cons x xs ih =>
    rw [splitAt, List.countP_cons]
    split
    · rw [List.length_cons, ih]
    · obtain ⟨piece, rest, hxs⟩ := List.exists_cons_of_ne_nil (splitAt_ne_nil cut xs)
      rw [hxs] at ih ⊢
      exact ih

theorem pieces_ne_nil (cut : Char → Bool) (s : String) : pieces cut s ≠ [] := by
  rw [pieces, Ne, List.map_eq_nil_iff]
  exact splitAt_ne_nil cut s.toList

/-- Texts are cut where they were put together. -/
theorem pieces_append_separator (s t separator : String) {c : Char}
    (hseparator : separator.toList = [c]) (hcut : cut c = true) :
    pieces cut (s ++ separator ++ t) = pieces cut s ++ pieces cut t := by
  have hlist : (s ++ separator ++ t).toList = s.toList ++ c :: t.toList := by simp [hseparator]
  rw [pieces, hlist, splitAt_append_cons _ _ hcut, List.map_append, pieces, pieces]

theorem pieces_eq_singleton {s : String} (h : ∀ c ∈ s.toList, cut c = false) :
    pieces cut s = [s] := by
  rw [pieces, splitAt_eq_singleton h, List.map_singleton, String.ofList_toList]

theorem pieces_eq_empty_iff {s : String} : pieces cut s = [""] ↔ s = "" := by
  constructor
  · intro h
    obtain ⟨piece, hpiece, hempty⟩ := List.map_eq_singleton_iff.mp h
    rw [eq_of_splitAt_eq_singleton hpiece, String.ofList_toList] at hempty
    exact hempty
  · rintro rfl
    rfl

/-- The pieces of joined texts are the texts. -/
theorem pieces_joinWith (separator : String) {c : Char} {names : List String}
    (hseparator : separator.toList = [c]) (hcut : cut c = true) (hne : names ≠ [])
    (h : ∀ n ∈ names, ∀ c ∈ n.toList, cut c = false) :
    pieces cut (joinWith separator names) = names := by
  induction names with
  | nil => exact absurd rfl hne
  | cons n names ih =>
    have hn : pieces cut n = [n] := pieces_eq_singleton (h n (List.mem_cons_self ..))
    cases names with
    | nil => exact hn
    | cons m names =>
      rw [joinWith, pieces_append_separator _ _ separator hseparator hcut, hn,
        ih (by simp) fun n' hn' => h n' (List.mem_cons_of_mem n hn')]
      · rfl
      · simp

/-- The characters of joined texts are theirs, and those of the separator if it is needed. -/
theorem mem_joinWith {separator : String} {names : List String} {c : Char} :
    c ∈ (joinWith separator names).toList ↔
      (c ∈ separator.toList ∧ 2 ≤ names.length) ∨ ∃ n ∈ names, c ∈ n.toList := by
  induction names with
  | nil => simp [joinWith]
  | cons n names ih =>
    cases names with
    | nil => simp [joinWith]
    | cons m names =>
      have hjoin : (joinWith separator (n :: m :: names)).toList =
          n.toList ++ separator.toList ++ (joinWith separator (m :: names)).toList := by
        simp [joinWith]
      rw [hjoin, List.mem_append, List.mem_append, ih]
      constructor
      · rintro ((hn | hseparator) | ⟨hseparator, -⟩ | ⟨k, hk, hc⟩)
        · exact Or.inr ⟨n, List.mem_cons_self .., hn⟩
        · exact Or.inl ⟨hseparator, by simp⟩
        · exact Or.inl ⟨hseparator, by simp⟩
        · exact Or.inr ⟨k, List.mem_cons_of_mem n hk, hc⟩
      · rintro (⟨hseparator, -⟩ | ⟨k, hk, hc⟩)
        · exact Or.inl (Or.inr hseparator)
        · rcases List.mem_cons.mp hk with rfl | hk
          · exact Or.inl (Or.inl hc)
          · exact Or.inr (Or.inr ⟨k, hk, hc⟩)

/-- Nothing is joined to an empty text, unless the texts are empty. -/
theorem joinWith_eq_empty_iff {separator : String} {names : List String}
    (h : ∀ n ∈ names, n ≠ "") : joinWith separator names = "" ↔ names = [] := by
  constructor
  · intro hjoin
    by_contra hne
    obtain ⟨n, rest, rfl⟩ := List.exists_cons_of_ne_nil hne
    have hn : n.toList ≠ [] := by
      rw [Ne, String.toList_eq_nil_iff]
      exact h n (List.mem_cons_self ..)
    obtain ⟨c, hc⟩ := List.exists_mem_of_ne_nil _ hn
    have hmem : c ∈ (joinWith separator (n :: rest)).toList :=
      mem_joinWith.mpr (Or.inr ⟨n, List.mem_cons_self .., hc⟩)
    rw [hjoin] at hmem
    simp at hmem
  · rintro rfl
    rfl

/-! ### Ends of a text -/

theorem dropFront?_eq_some_iff {front s rest : String} :
    dropFront? front s = some rest ↔ s = front ++ rest := by
  rw [dropFront?, Option.map_eq_some_iff]
  constructor
  · rintro ⟨chars, hchars, rfl⟩
    rw [List.isPrefixOf?_eq_some_iff_append_eq] at hchars
    rw [← String.toList_inj, ← hchars]
    simp
  · rintro rfl
    exact ⟨rest.toList, List.isPrefixOf?_eq_some_iff_append_eq.mpr (by simp), by simp⟩

theorem dropFront?_eq_none_iff {front s : String} :
    dropFront? front s = none ↔ ¬front.toList <+: s.toList := by
  rw [Option.eq_none_iff_forall_ne_some]
  constructor
  · rintro hnone ⟨rest, hrest⟩
    refine hnone (String.ofList rest) (dropFront?_eq_some_iff.mpr ?_)
    rw [← String.toList_inj, ← hrest]
    simp
  · intro hnot rest hrest
    rw [dropFront?_eq_some_iff.mp hrest] at hnot
    exact hnot ⟨rest.toList, by simp⟩

theorem dropBack?_eq_some_iff {back s rest : String} :
    dropBack? back s = some rest ↔ s = rest ++ back := by
  rw [dropBack?, Option.map_eq_some_iff]
  constructor
  · rintro ⟨chars, hchars, rfl⟩
    rw [List.isSuffixOf?_eq_some_iff_append_eq] at hchars
    rw [← String.toList_inj, ← hchars]
    simp
  · rintro rfl
    exact ⟨rest.toList, List.isSuffixOf?_eq_some_iff_append_eq.mpr (by simp), by simp⟩

theorem endsWith_iff (s back : String) : s.endsWith back = true ↔ back.toList <:+ s.toList := by
  rw [← String.endsWith_toSlice, String.Slice.endsWith_string_iff, String.copy_toSlice]

/-- Cutting at the last `c` leaves no other `c` behind it. -/
theorem splitLast?_eq_some_iff {c : Char} {s before after : String} :
    splitLast? c s = some (before, after) ↔
      s.toList = before.toList ++ c :: after.toList ∧ c ∉ after.toList := by
  constructor
  · intro h
    have hsplit := List.takeWhile_append_dropWhile (p := (· != c)) (l := s.toList.reverse)
    rw [splitLast?] at h
    split at h
    · cases h
    · next d rest hdrop =>
      simp only [Option.some.injEq, Prod.mk.injEq] at h
      obtain ⟨rfl, rfl⟩ := h
      -- what stops `takeWhile` is the character itself
      have hd : d = c := by
        have hhead := List.head?_dropWhile_not (· != c) s.toList.reverse
        rw [hdrop] at hhead
        simpa using hhead
      subst hd
      rw [hdrop] at hsplit
      refine ⟨?_, ?_⟩
      · rw [String.toList_ofList, String.toList_ofList]
        simpa using congrArg List.reverse hsplit.symm
      · rw [String.toList_ofList, List.mem_reverse]
        intro hmem
        simpa using List.all_eq_true.mp List.all_takeWhile d hmem
  · rintro ⟨hs, hafter⟩
    have hne : ∀ d ∈ after.toList.reverse, (d != c) = true := by
      intro d hd
      rw [List.mem_reverse] at hd
      rw [bne_iff_ne]
      rintro rfl
      exact hafter hd
    have hrev : s.toList.reverse = after.toList.reverse ++ c :: before.toList.reverse := by
      rw [hs]
      simp
    rw [splitLast?, hrev, List.takeWhile_append_of_pos hne, List.dropWhile_append_of_pos hne]
    simp

end Text

namespace Path

/-! ### Names -/

/-- A text that stands for itself as a component of a path. -/
structure IsName (n : String) : Prop where
  ne_empty : n ≠ ""
  ne_here : n ≠ "."
  ne_up : n ≠ ".."
  not_slash : '/' ∉ n.toList

instance (n : String) : Decidable (IsName n) :=
  decidable_of_iff (n ≠ "" ∧ n ≠ "." ∧ n ≠ ".." ∧ '/' ∉ n.toList)
    ⟨fun h => ⟨h.1, h.2.1, h.2.2.1, h.2.2.2⟩,
      fun h => ⟨h.ne_empty, h.ne_here, h.ne_up, h.not_slash⟩⟩

variable {n : String} {dir : String} {names : List String}

theorem IsName.pieces (h : IsName n) : Text.pieces (· == '/') n = [n] := by
  refine Text.pieces_eq_singleton fun c hc => ?_
  rw [beq_eq_false_iff_ne]
  rintro rfl
  exact h.not_slash hc

theorem IsName.ofPiece? (h : IsName n) : PathComponent.ofPiece? n = some (.name n) := by
  simp [PathComponent.ofPiece?, h.ne_empty, h.ne_here, h.ne_up]

theorem IsName.startsWith_slash (h : IsName n) : n.startsWith "/" = false := by
  rw [String.startsWith_string_eq_false_iff]
  rintro ⟨rest, hrest⟩
  apply h.not_slash
  rw [← hrest]
  simp

/-! ### Components -/

/-- What a path begins with, if that is more than its pieces: the top or the working directory. -/
def start : List String → List PathComponent
  | "" :: _ :: _ => [.root]
  | "." :: _ => [.here]
  | _ => []

theorem components_eq (path : String) :
    components path = start (Text.pieces (· == '/') path) ++
      (Text.pieces (· == '/') path).filterMap PathComponent.ofPiece? := by
  unfold components start
  split <;> simp_all

/-- More pieces do not change what a path begins with. -/
theorem start_append {ps : List String} (hps : ps ≠ []) (hempty : ps ≠ [""]) (qs : List String) :
    start (ps ++ qs) = start ps := by
  obtain ⟨p, rest, rfl⟩ := List.exists_cons_of_ne_nil hps
  cases rest with
  | nil =>
    have hp : p ≠ "" := fun hp => hempty (by rw [hp])
    unfold start
    split <;> simp_all
  | cons q rest =>
    unfold start
    split <;> simp_all

/-- What follows the first piece of a path that has several does not matter for its begin. -/
theorem start_concat {ps : List String} (hps : ps ≠ []) (q q' : String) :
    start (ps ++ [q]) = start (ps ++ [q']) := by
  by_cases hempty : ps = [""]
  · subst hempty
    rfl
  · rw [start_append hps hempty, start_append hps hempty]

/-- A name among the components of a path is a name. -/
theorem isName_of_mem_components {path n : String} (h : PathComponent.name n ∈ components path) :
    IsName n := by
  rw [components_eq, List.mem_append] at h
  rcases h with h | h
  · unfold start at h
    split at h <;> simp at h
  · obtain ⟨piece, hpiece, hname⟩ := List.mem_filterMap.mp h
    obtain ⟨chars, hchars, rfl⟩ := List.mem_map.mp hpiece
    have hslash : '/' ∉ chars := by
      intro hmem
      simpa using Text.not_cut_of_mem_splitAt hchars '/' hmem
    unfold PathComponent.ofPiece? at hname
    split at hname
    · cases hname
    · split at hname
      · cases hname
      · simp only [Option.some.injEq, PathComponent.name.injEq] at hname
        subst hname
        refine ⟨?_, ?_, ?_, by rwa [String.toList_ofList]⟩ <;> simp_all

/-- **A name below a directory.**  It is one more component, however the directory is written. -/
theorem components_join (dir : String) (h : IsName n) :
    components (join dir n) = components dir ++ [.name n] := by
  have hn : [n].filterMap PathComponent.ofPiece? = [.name n] := by
    rw [List.filterMap_cons_some h.ofPiece?, List.filterMap_nil]
  rw [join, h.startsWith_slash, if_neg Bool.false_ne_true]
  -- the three ways to write a path below a directory: alone, after its `/`, after a new one
  by_cases hdir : dir = ""
  · have hstart : start [n] = [] := by
      have hempty := h.ne_empty
      have hhere := h.ne_here
      unfold start
      split <;> simp_all
    subst hdir
    rw [if_pos (by simp), String.empty_append, components_eq, h.pieces, hstart, hn]
    rfl
  · by_cases hslash : dir.endsWith "/" = true
    · obtain ⟨d, hd⟩ := (Text.endsWith_iff dir "/").mp hslash
      obtain rfl : dir = String.ofList d ++ "/" := by
        rw [← String.toList_inj, ← hd]
        simp
      have hold : Text.pieces (· == '/') (String.ofList d ++ "/") =
          Text.pieces (· == '/') (String.ofList d) ++ [""] := by
        have happend :=
          @Text.pieces_append_separator (· == '/') (String.ofList d) "" "/" '/' rfl rfl
        rwa [String.append_empty] at happend
      rw [if_pos (by simp [hslash]), components_eq, components_eq, hold,
        Text.pieces_append_separator _ _ "/" rfl rfl, h.pieces,
        start_concat (Text.pieces_ne_nil _ _) n "", List.filterMap_append,
        List.filterMap_append, hn]
      simp [PathComponent.ofPiece?]
    · have hne : Text.pieces (· == '/') dir ≠ [""] :=
        fun hp => hdir (Text.pieces_eq_empty_iff.mp hp)
      rw [if_neg (by simp [hdir, hslash]), components_eq, components_eq,
        Text.pieces_append_separator _ _ "/" rfl rfl, h.pieces,
        start_append (Text.pieces_ne_nil _ _) hne, List.filterMap_append, hn, List.append_assoc]

theorem fileName?_join (h : IsName n) : fileName? (join dir n) = some n := by
  rw [fileName?, components_join _ h, List.getLast?_concat]

/-! ### Paths below a directory -/

/-- The path of the names below a directory, each in the one before. -/
def below (dir : String) (names : List String) : String := names.foldl join dir

/-- The names of a path below a directory. -/
def namesBelow (dir path : String) : List String :=
  ((relativeTo? dir path).getD []).map (·.text)

@[simp] theorem below_nil (dir : String) : below dir [] = dir := rfl

theorem below_concat (dir : String) (names : List String) (n : String) :
    below dir (names ++ [n]) = join (below dir names) n := by
  rw [below, List.foldl_append]
  rfl

theorem components_below (h : ∀ n ∈ names, IsName n) :
    components (below dir names) = components dir ++ names.map .name := by
  induction names using List.reverseRecOn with
  | nil => rw [below_nil, List.map_nil, List.append_nil]
  | append_singleton names n ih =>
    rw [below_concat, components_join _ (h n (by simp)), ih fun m hm => h m (by simp [hm])]
    simp

theorem relativeTo?_below (h : ∀ n ∈ names, IsName n) :
    relativeTo? dir (below dir names) = some (names.map .name) := by
  rw [relativeTo?, components_below h, List.isPrefixOf?_eq_some_iff_append_eq]

/-- **Names are read back.**  The path of names below a directory has just these names there. -/
theorem namesBelow_below (h : ∀ n ∈ names, IsName n) :
    namesBelow dir (below dir names) = names := by
  rw [namesBelow, relativeTo?_below h, Option.getD_some, List.map_map]
  exact List.map_id names

theorem fileName?_below (h : IsName n) : fileName? (below dir (names ++ [n])) = some n := by
  rw [below_concat, fileName?_join h]

/-- What is written after the last name of a path belongs to the name. -/
theorem below_append_text {back : String} (h : IsName n) (hback : IsName (n ++ back)) :
    below dir (names ++ [n]) ++ back = below dir (names ++ [n ++ back]) := by
  rw [below_concat, below_concat, join, join, h.startsWith_slash, hback.startsWith_slash]
  split
  · cases ‹false = true›
  · split <;> simp [String.append_assoc]

end Path

/-! ### Segments -/

open RouteMigration.Path (IsName)

theorem isSeparator_eq_false {n : String} (h : IsName n) (hback : '\\' ∉ n.toList) :
    ∀ c ∈ n.toList, isSeparator c = false := by
  intro c hc
  rw [isSeparator, Bool.or_eq_false_iff, beq_eq_false_iff_ne, beq_eq_false_iff_ne]
  refine ⟨?_, ?_⟩
  · rintro rfl
    exact h.not_slash hc
  · rintro rfl
    exact hback hc

/-- **Segments of a directory.**  Joined names are cut where they were joined. -/
theorem segments_joinWith {names : List String}
    (h : ∀ n ∈ names, IsName n ∧ '\\' ∉ n.toList) :
    segments (Text.joinWith "/" names) = names := by
  by_cases hne : names = []
  · subst hne
    rfl
  · rw [segments, Text.pieces_joinWith "/" rfl rfl hne fun n hn =>
      isSeparator_eq_false (h n hn).1 (h n hn).2, List.filter_eq_self]
    intro n hn
    have hname := (h n hn).1
    simp [hname.ne_empty, hname.ne_here]

namespace Segment

/-- A converted name is the name itself, or a parameter name after a dollar sign. -/
theorem convert_cases (n : String) :
    convert n = n ∨ ∃ name, convert n = "$" ++ name ∧ isParameterName name = true := by
  unfold convert parse
  split
  · next name hbetween =>
    exact Or.inr ⟨name, rfl, (Option.filter_eq_some_iff.mp hbetween).2⟩
  · split
    · exact Or.inl rfl
    · next inner _ =>
      split
      · next name _ =>
        by_cases hname : isParameterName name = true
        · exact Or.inr ⟨name, by rw [if_pos hname]; rfl, hname⟩
        · exact Or.inl (by rw [if_neg hname]; rfl)
      · by_cases hinner : isParameterName inner = true
        · exact Or.inr ⟨inner, by rw [if_pos hinner]; rfl, hinner⟩
        · exact Or.inl (by rw [if_neg hinner]; rfl)

theorem isSeparator_of_isParameterName {name : String} (h : isParameterName name = true) :
    ∀ c ∈ name.toList, isSeparator c = false := by
  intro c hc
  simp only [isParameterName, Bool.and_eq_true, List.all_eq_true, bne_iff_ne] at h
  obtain ⟨⟨-, hslash⟩, hback⟩ := h.2 c hc
  simp [isSeparator, hslash, hback]

/-- No separator comes in when a segment is converted. -/
theorem isSeparator_convert {n : String} (h : ∀ c ∈ n.toList, isSeparator c = false) :
    ∀ c ∈ (convert n).toList, isSeparator c = false := by
  rcases convert_cases n with hsame | ⟨name, hconvert, hname⟩
  · rwa [hsame]
  · have hlist : (convert n).toList = '$' :: name.toList := by simp [hconvert]
    rw [hlist]
    exact List.forall_mem_cons.mpr ⟨rfl, isSeparator_of_isParameterName hname⟩

/-- A name is converted to a name. -/
theorem isName_convert {n : String} (h : IsName n) : IsName (convert n) := by
  rcases convert_cases n with hsame | ⟨name, hconvert, hname⟩
  · rwa [hsame]
  · have hlist : (convert n).toList = '$' :: name.toList := by simp [hconvert]
    have hne : ∀ s : String, s.toList.head? ≠ some '$' → convert n ≠ s := by
      rintro s hs rfl
      exact hs (by rw [hlist]; rfl)
    refine ⟨hne _ (by decide), hne _ (by decide), hne _ (by decide), ?_⟩
    rw [hlist, List.mem_cons, not_or]
    refine ⟨by decide, fun hslash => ?_⟩
    exact absurd (isSeparator_of_isParameterName hname '/' hslash) (by decide)

end Segment

end RouteMigration
