import RouteMigration.Proofs.Path

/-!
# Segments and converted paths

A directory name spells a parameter if it is one of three brackets around the name of a parameter,
and everything else stands for itself.  The brackets overlap, so that a text has to be tried for
each; but no text is spelled in two ways.

Converting a path converts its segments and nothing else.  A converted segment has no separator,
so a converted path is cut where the path was cut.

## Main Definitions

* `Segment.IsParameter` — what a parameter may be called
* `Segment.Spells` — how a parameter is spelled

## Main Statements

* `Segment.parse_eq_of_spells`, `Segment.spells_parse` — reading is the inverse of spelling
* `pieces_convertPath` — the segments of a converted path
* `convertPath_convertPath` — a converted path is converted already
* `path_conversion_is_pointwise` — reading, converting, and the route of a directory
-/

namespace RouteMigration

namespace Segment

/-! ### The spelling of parameters -/

/-- A parameter may be called by any text that is not empty and has no bracket and no separator. -/
structure IsParameter (name : String) : Prop where
  ne_empty : name ≠ ""
  plain : ∀ c ∈ name.toList, c ≠ '[' ∧ c ≠ ']' ∧ c ≠ '/' ∧ c ≠ '\\'

/-- How a parameter is spelled.  Between single brackets, dots at the front make it a parameter for
the rest of the path. -/
inductive Spells : String → Segment → Prop
  | dynamic {name : String} (hname : IsParameter name) (hdots : ¬"...".toList <+: name.toList) :
    Spells ("[" ++ name ++ "]") (.dynamic name)
  | catchAll {name : String} (hname : IsParameter name) :
    Spells ("[..." ++ name ++ "]") (.catchAll name)
  | optionalCatchAll {name : String} (hname : IsParameter name) :
    Spells ("[[..." ++ name ++ "]]") (.optionalCatchAll name)

variable {s name opening closing : String} {shape : Segment}

theorem isParameterName_iff : isParameterName name = true ↔ IsParameter name := by
  simp only [isParameterName, Bool.and_eq_true, List.all_eq_true, bne_iff_ne, and_assoc]
  constructor
  · rintro ⟨hne, hplain⟩
    exact ⟨hne, hplain⟩
  · rintro ⟨hne, hplain⟩
    exact ⟨hne, hplain⟩

instance (name : String) : Decidable (IsParameter name) :=
  decidable_of_iff _ isParameterName_iff

theorem inside_eq_some_iff :
    (Text.dropFront? opening s).bind (Text.dropBack? closing) = some name ↔
      s = opening ++ name ++ closing := by
  simp [Option.bind_eq_some_iff, Text.dropFront?_eq_some_iff, Text.dropBack?_eq_some_iff,
    String.append_assoc]

theorem between?_eq_some_iff :
    between? opening closing s = some name ↔
      s = opening ++ name ++ closing ∧ IsParameter name := by
  rw [between?, Option.filter_eq_some_iff, inside_eq_some_iff, isParameterName_iff]

theorem between?_eq_none (h : ∀ name, IsParameter name → s ≠ opening ++ name ++ closing) :
    between? opening closing s = none := by
  rw [Option.eq_none_iff_forall_ne_some]
  intro name hname
  obtain ⟨hs, hparameter⟩ := between?_eq_some_iff.mp hname
  exact h name hparameter hs

theorem spells_dynamic_iff :
    Spells s (.dynamic name) ↔
      s = "[" ++ name ++ "]" ∧ IsParameter name ∧ ¬"...".toList <+: name.toList := by
  constructor
  · intro h
    cases h with
    | dynamic hname hdots => exact ⟨rfl, hname, hdots⟩
  · rintro ⟨rfl, hname, hdots⟩
    exact .dynamic hname hdots

theorem spells_catchAll_iff :
    Spells s (.catchAll name) ↔ s = "[..." ++ name ++ "]" ∧ IsParameter name := by
  constructor
  · intro h
    cases h with
    | catchAll hname => exact ⟨rfl, hname⟩
  · rintro ⟨rfl, hname⟩
    exact .catchAll hname

theorem spells_optionalCatchAll_iff :
    Spells s (.optionalCatchAll name) ↔ s = "[[..." ++ name ++ "]]" ∧ IsParameter name := by
  constructor
  · intro h
    cases h with
    | optionalCatchAll hname => exact ⟨rfl, hname⟩
  · rintro ⟨rfl, hname⟩
    exact .optionalCatchAll hname

theorem Spells.head? (h : Spells s shape) : s.toList.head? = some '[' := by
  cases h <;> simp

/-! ### Reading -/

/-- **What is spelled is read.** -/
theorem parse_eq_of_spells (h : Spells s shape) : parse s = shape := by
  cases h with
  | @dynamic name hname hdots =>
    have hdouble : between? "[[..." "]]" ("[" ++ name ++ "]") = none := by
      refine between?_eq_none fun other _ heq => ?_
      -- the name would begin with the second bracket
      have hlist : name.toList ++ [']'] =
          '[' :: '.' :: '.' :: '.' :: (other.toList ++ [']', ']']) := by
        simpa using congrArg String.toList heq
      cases hchars : name.toList with
      | nil => simp [hchars] at hlist
      | cons c cs =>
        rw [hchars] at hlist
        have hc : c = '[' := (List.cons.inj hlist).1
        exact (hname.plain c (by simp [hchars])).1 hc
    have hinside : (Text.dropFront? "[" ("[" ++ name ++ "]")).bind (Text.dropBack? "]") =
        some name := inside_eq_some_iff.mpr rfl
    simp only [parse, hdouble, hinside, Text.dropFront?_eq_none_iff.mpr hdots,
      if_pos (isParameterName_iff.mpr hname)]
  | @catchAll name hname =>
    have hdouble : between? "[[..." "]]" ("[..." ++ name ++ "]") = none := by
      refine between?_eq_none fun other _ heq => ?_
      simpa using congrArg String.toList heq
    have hinside : (Text.dropFront? "[" ("[..." ++ name ++ "]")).bind (Text.dropBack? "]") =
        some ("..." ++ name) := by
      rw [inside_eq_some_iff, ← String.append_assoc]
      rfl
    have hdots : Text.dropFront? "..." ("..." ++ name) = some name :=
      Text.dropFront?_eq_some_iff.mpr rfl
    simp only [parse, hdouble, hinside, hdots, if_pos (isParameterName_iff.mpr hname)]
  | @optionalCatchAll name hname =>
    have hdouble : between? "[[..." "]]" ("[[..." ++ name ++ "]]") = some name :=
      between?_eq_some_iff.mpr ⟨rfl, hname⟩
    simp only [parse, hdouble]

/-- **What is read was spelled**, or it is the text itself. -/
theorem spells_parse (s : String) : Spells s (parse s) ∨ parse s = .literal s := by
  unfold parse
  split
  · next name hdouble =>
    obtain ⟨rfl, hname⟩ := between?_eq_some_iff.mp hdouble
    exact Or.inl (.optionalCatchAll hname)
  · split
    · exact Or.inr rfl
    · next inner hinside =>
      obtain rfl := inside_eq_some_iff.mp hinside
      split
      · next name hdots =>
        obtain rfl := Text.dropFront?_eq_some_iff.mp hdots
        split
        · next hname =>
          have htext : "[" ++ ("..." ++ name) ++ "]" = "[..." ++ name ++ "]" := by
            rw [← String.append_assoc]
            rfl
          rw [htext]
          exact Or.inl (.catchAll (isParameterName_iff.mp hname))
        · exact Or.inr rfl
      · next hdots =>
        split
        · next hname =>
          rw [Text.dropFront?_eq_none_iff] at hdots
          exact Or.inl (.dynamic (isParameterName_iff.mp hname) hdots)
        · exact Or.inr rfl

theorem parse_eq_iff (hshape : ∀ text, shape ≠ .literal text) :
    parse s = shape ↔ Spells s shape := by
  constructor
  · rintro rfl
    exact (spells_parse s).resolve_right (hshape s)
  · exact parse_eq_of_spells

theorem parse_eq_literal_iff {text : String} :
    parse s = .literal text ↔ text = s ∧ ∀ shape, ¬Spells s shape := by
  constructor
  · intro h
    have hnone : ∀ shape, ¬Spells s shape := by
      intro shape hspells
      rw [parse_eq_of_spells hspells] at h
      subst h
      cases hspells
    have hsame := (spells_parse s).resolve_left (hnone _)
    rw [h] at hsame
    cases hsame
    exact ⟨rfl, hnone⟩
  · rintro ⟨rfl, hnone⟩
    exact (spells_parse text).resolve_left (hnone _)

/-- A parameter is written with a dollar sign. -/
theorem convert_eq_of_parameter (h : parse s = .dynamic name ∨ parse s = .catchAll name ∨
    parse s = .optionalCatchAll name) : convert s = "$" ++ name := by
  rw [convert]
  rcases h with h | h | h
  · rw [h]
    rfl
  · rw [h]
    rfl
  · rw [h]
    rfl

/-- A text that begins with a dollar sign is converted already. -/
theorem convert_convert (s : String) : convert (convert s) = convert s := by
  rcases convert_cases s with hsame | ⟨name, hconvert, -⟩
  · rw [hsame]
    exact hsame
  · have hliteral : parse ("$" ++ name) = .literal ("$" ++ name) := by
      refine (spells_parse _).resolve_left fun hspells => ?_
      simpa using hspells.head?
    rw [hconvert, convert, hliteral]
    rfl

end Segment

/-! ### Paths -/

variable {path : String}

/-- The separator of a converted path, and what tells it. -/
theorem separatorOf_cases (path : String) :
    (separatorOf path = "\\" ∧ '\\' ∈ path.toList) ∨ separatorOf path = "/" := by
  unfold separatorOf
  split
  · next h =>
    simp only [Bool.and_eq_true, List.contains_iff_mem] at h
    exact Or.inl ⟨rfl, h.1⟩
  · exact Or.inr rfl

theorem exists_separatorOf (path : String) :
    ∃ c, separatorOf path = String.singleton c ∧ isSeparator c = true := by
  rcases separatorOf_cases path with ⟨h, -⟩ | h
  · exact ⟨'\\', h, rfl⟩
  · exact ⟨'/', h, rfl⟩

/-- No segment of a path has a separator, converted or not. -/
theorem isSeparator_convert_piece {n : String}
    (h : n ∈ (Text.pieces isSeparator path).map Segment.convert) :
    ∀ c ∈ n.toList, isSeparator c = false := by
  obtain ⟨piece, hpiece, rfl⟩ := List.mem_map.mp h
  obtain ⟨chars, hchars, rfl⟩ := List.mem_map.mp hpiece
  refine Segment.isSeparator_convert ?_
  rw [String.toList_ofList]
  exact Text.not_cut_of_mem_splitAt hchars

/-- **Pointwise.**  The segments of a converted path are those of the path, each converted. -/
theorem pieces_convertPath (path : String) :
    Text.pieces isSeparator (convertPath path) =
      (Text.pieces isSeparator path).map Segment.convert := by
  obtain ⟨c, hseparator, hcut⟩ := exists_separatorOf path
  rw [convertPath, hseparator]
  refine Text.pieces_joinWith _ (by simp) hcut ?_ fun n hn => isSeparator_convert_piece hn
  rw [Ne, List.map_eq_nil_iff]
  exact Text.pieces_ne_nil isSeparator path

/-- The separators in a converted path are those it is joined with, if it has several segments. -/
theorem mem_convertPath_iff {c : Char} (hc : isSeparator c = true) :
    c ∈ (convertPath path).toList ↔
      c ∈ (separatorOf path).toList ∧ ∃ d ∈ path.toList, isSeparator d = true := by
  have hpieces : ¬∃ n ∈ (Text.pieces isSeparator path).map Segment.convert, c ∈ n.toList := by
    rintro ⟨n, hn, hmem⟩
    rw [isSeparator_convert_piece hn c hmem] at hc
    cases hc
  have hlength : 2 ≤ ((Text.pieces isSeparator path).map Segment.convert).length ↔
      ∃ d ∈ path.toList, isSeparator d = true := by
    rw [List.length_map, Text.pieces, List.length_map, Text.length_splitAt, ← List.countP_pos_iff]
    omega
  rw [convertPath, Text.mem_joinWith, or_iff_left hpieces, hlength]

/-- A converted path is joined as the path was. -/
theorem separatorOf_convertPath (path : String) :
    separatorOf (convertPath path) = separatorOf path := by
  have hback := @mem_convertPath_iff path '\\' rfl
  have hslash := @mem_convertPath_iff path '/' rfl
  rcases separatorOf_cases path with ⟨h, hmem⟩ | h
  · have hhas : '\\' ∈ (convertPath path).toList :=
      hback.mpr ⟨by rw [h]; decide, '\\', hmem, rfl⟩
    have hnot : '/' ∉ (convertPath path).toList := by
      rw [hslash, h]
      rintro ⟨hslash, -⟩
      exact absurd hslash (by decide)
    rw [h, separatorOf, if_pos (by simp [hhas, hnot])]
  · have hnot : '\\' ∉ (convertPath path).toList := by
      rw [hback, h]
      rintro ⟨hback, -⟩
      exact absurd hback (by decide)
    rw [h, separatorOf, if_neg (by simp [hnot])]

/-- **Once is enough.**  A converted path stays as it is. -/
theorem convertPath_convertPath (path : String) :
    convertPath (convertPath path) = convertPath path := by
  have hsegments : (Text.pieces isSeparator path).map (Segment.convert ∘ Segment.convert) =
      (Text.pieces isSeparator path).map Segment.convert :=
    List.map_congr_left fun s _ => Segment.convert_convert s
  rw [convertPath, separatorOf_convertPath, pieces_convertPath, List.map_map, hsegments,
    ← convertPath]

/-- A directory below the top is converted as its route is. -/
theorem convertPath_below_top (dir : String) :
    convertPath ("/" ++ dir) =
      "/" ++ Text.joinWith "/" ((Text.pieces isSeparator dir).map Segment.convert) := by
  have hseparator : separatorOf ("/" ++ dir) = "/" := by
    rw [separatorOf, if_neg (by simp)]
  have hpieces : Text.pieces isSeparator ("/" ++ dir) = "" :: Text.pieces isSeparator dir := by
    have happend := @Text.pieces_append_separator isSeparator "" dir "/" '/' rfl rfl
    rwa [String.empty_append] at happend
  obtain ⟨first, rest, hdir⟩ := List.exists_cons_of_ne_nil (Text.pieces_ne_nil isSeparator dir)
  have hempty : Segment.convert "" = "" := rfl
  rw [convertPath, hseparator, hpieces, hdir, List.map_cons, List.map_cons, hempty, Text.joinWith,
    String.empty_append]
  simp

/-- **Path conversion.**  A segment is read as a parameter exactly if it is the name of one between
the brackets of its kind, and else as itself.  A path is converted segment by segment, its segments
joined by one separator alone, and converting it once more changes nothing.  The route of a
directory without empty segments is the directory, converted below the top. -/
theorem path_conversion_is_pointwise :
    (∀ s name : String,
      (Segment.parse s = .dynamic name ↔
        s = "[" ++ name ++ "]" ∧ Segment.IsParameter name ∧ ¬"...".toList <+: name.toList) ∧
      (Segment.parse s = .catchAll name ↔
        s = "[..." ++ name ++ "]" ∧ Segment.IsParameter name) ∧
      (Segment.parse s = .optionalCatchAll name ↔
        s = "[[..." ++ name ++ "]]" ∧ Segment.IsParameter name) ∧
      (Segment.parse s = .literal name ↔ name = s ∧ ∀ shape, ¬Segment.Spells s shape) ∧
      (Segment.parse s = .dynamic name ∨ Segment.parse s = .catchAll name ∨
        Segment.parse s = .optionalCatchAll name → Segment.convert s = "$" ++ name) ∧
      (Segment.parse s = .literal s → Segment.convert s = s)) ∧
    (∀ path : String,
      Text.pieces isSeparator (convertPath path) =
          (Text.pieces isSeparator path).map Segment.convert ∧
        (∃ c, isSeparator c = true ∧
          convertPath path = Text.joinWith (String.singleton c)
            ((Text.pieces isSeparator path).map Segment.convert) ∧
          ∀ d ∈ (convertPath path).toList, isSeparator d = true → d = c) ∧
        convertPath (convertPath path) = convertPath path) ∧
    ∀ dir : String,
      (dir = "" ∨ ∀ s ∈ Text.pieces isSeparator dir, s ≠ "" ∧ s ≠ ".") →
        routePath dir = convertPath ("/" ++ dir) := by
  refine ⟨fun s name => ⟨?_, ?_, ?_, Segment.parse_eq_literal_iff, ?_, ?_⟩,
    fun path => ⟨?_, ?_, ?_⟩, ?_⟩
  · exact (Segment.parse_eq_iff (by simp)).trans Segment.spells_dynamic_iff
  · exact (Segment.parse_eq_iff (by simp)).trans Segment.spells_catchAll_iff
  · exact (Segment.parse_eq_iff (by simp)).trans Segment.spells_optionalCatchAll_iff
  · exact Segment.convert_eq_of_parameter
  · intro hparse
    rw [Segment.convert, hparse, Segment.render]
  · exact pieces_convertPath path
  · obtain ⟨c, hseparator, hc⟩ := exists_separatorOf path
    refine ⟨c, hc, by rw [← hseparator, convertPath], fun d hd hcut => ?_⟩
    have hmem := ((mem_convertPath_iff hcut).mp hd).1
    rw [hseparator] at hmem
    simpa using hmem
  · exact convertPath_convertPath path
  · intro dir hdir
    rw [convertPath_below_top, routePath, convertedSegments, segments]
    rcases hdir with rfl | hdir
    · rfl
    · rw [List.filter_eq_self.mpr fun s hs => by simp [hdir s hs]]

/-- The directory of a blog has a route with a parameter. -/
theorem path_conversion_of_blog :
    Segment.parse "[...slug]" = .catchAll "slug" ∧ Segment.convert "[...slug]" = "$slug" ∧
      (∀ s ∈ Text.pieces isSeparator "blog/[...slug]", s ≠ "" ∧ s ≠ ".") ∧
      routePath "blog/[...slug]" = convertPath ("/" ++ "blog/[...slug]") ∧
      convertPath ("/" ++ "blog/[...slug]") = "/blog/$slug" := by
  have hplain : ∀ s ∈ Text.pieces isSeparator "blog/[...slug]", s ≠ "" ∧ s ≠ "." := by decide
  obtain ⟨hparse, -, hroute⟩ := path_conversion_is_pointwise
  obtain ⟨-, hcatchAll, -, -, hconvert, -⟩ := hparse "[...slug]" "slug"
  have hslug := hcatchAll.mpr ⟨by decide, by decide⟩
  exact ⟨hslug, hconvert (Or.inr (Or.inl hslug)), hplain, hroute _ (Or.inr hplain), by decide⟩

end RouteMigration
