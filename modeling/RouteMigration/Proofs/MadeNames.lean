import Mathlib.Tactic.Tauto
import RouteMigration.Grammar.Name
import RouteMigration.Module.Options
import RouteMigration.Proofs.Path
import RouteMigration.Proofs.Stylesheets

/-!
# Names that a migration makes

A component without a name is called by its file, and the URL of a stylesheet by its source.
Either text may hold any character.  Whatever it holds, the name is an identifier: it is read back
as one word, and a declaration may bind that word.

## Main Definitions

* `IsWord` — texts that are read as one word
* `Grammar.unboundWords`, `IsBindable` — the words that no declaration may bind, and names that are
  read back as what a declaration binds
* `IsComponentName`, `IsSheetName` — the shapes of the names of components and stylesheets
* `Options.IsNamedByStem` — the component is called by its file

## Main Statements

* `Lexer.bare_of_isWord` — a word is read as one token
* `Grammar.boundText_of_not_mem` — a declaration takes a word that is not reserved
* `Options.map_toLower_derivedName` — a name that comes from the file has its letters and digits
* `made_names_are_identifiers` — made names are identifiers, and never reserved words
-/

namespace RouteMigration

/-! ### Words -/

/-- The text is read as one word. -/
def IsWord (name : List Char) : Prop :=
  ∃ c cs, name = c :: cs ∧ Text.isIdentStart c = true ∧ ∀ d ∈ cs, Text.isIdentPart d = true

/-- No word goes on into the text. -/
def EndsWord (after : List Char) : Prop :=
  ∀ c ∈ after.head?, Text.isIdentPart c = false ∧ c ≠ '\\'

namespace Text

theorem isAlpha_eq (c : Char) : c.isAlpha = (c.isUpper || c.isLower) := rfl

theorem isUpper_eq (c : Char) : c.isUpper = decide (c.val ≥ 'A'.val ∧ c.val ≤ 'Z'.val) := rfl

theorem isLower_eq (c : Char) :
    c.isLower = (decide (c.val ≥ 'a'.val) && decide (c.val ≤ 'z'.val)) := rfl

theorem isIdentPart_of_isIdentStart {c : Char} (h : isIdentStart c = true) :
    isIdentPart c = true := by
  unfold isIdentStart at h
  unfold isIdentPart
  split at h
  next hascii =>
    rw [if_pos hascii, Char.isAlphanum]
    simp only [Bool.or_eq_true] at h ⊢
    tauto
  next hascii => rw [if_neg hascii, h, Bool.true_or]

theorem ascii_of_isAlphanum {c : Char} (h : c.isAlphanum = true) : c.toNat < 0x80 := by
  have hcode : c.toNat = c.val.toNat := rfl
  simp only [Char.isAlphanum, isAlpha_eq, isUpper_eq, isLower_eq, Char.isDigit,
    Bool.or_eq_true, Bool.and_eq_true, decide_eq_true_eq, UInt32.le_iff_toNat_le, ge_iff_le,
    Char.reduceVal, UInt32.reduceToNat] at h
  omega

theorem isIdentPart_of_isBindingChar {c : Char} (h : isBindingChar c = true) :
    isIdentPart c = true := by
  simp only [isBindingChar, Bool.or_eq_true, beq_iff_eq] at h
  rcases h with (h | rfl) | rfl
  · rw [isIdentPart, if_pos (ascii_of_isAlphanum h), h, Bool.true_or, Bool.true_or]
  · decide
  · decide

theorem isIdentStart_of_isAlpha {c : Char} (h : c.isAlpha = true) : isIdentStart c = true := by
  have hascii : c.toNat < 0x80 := ascii_of_isAlphanum (by rw [Char.isAlphanum, h, Bool.true_or])
  rw [isIdentStart, if_pos hascii, h, Bool.true_or, Bool.true_or]

end Text

namespace Lexer

/-- The characters of a name are taken up to its end. -/
theorem nameChars_append {cs after : List Char} (hcs : ∀ d ∈ cs, Text.isIdentPart d = true)
    (hafter : EndsWord after) {fuel : Nat} (hfuel : cs.length ≤ fuel) (acc : List Char)
    (isEscaped : Bool) :
    nameChars fuel acc isEscaped (cs ++ after) = .ok (acc.reverse ++ cs, isEscaped, after) := by
  induction cs generalizing fuel acc with
  | nil =>
    cases fuel with
    | zero => simp [nameChars]
    | succ fuel =>
      cases after with
      | nil => simp [nameChars]
      | cons c after =>
        obtain ⟨hpart, hslash⟩ := hafter c rfl
        simp [nameChars, hpart, hslash]
  | cons c cs ih =>
    cases fuel with
    | zero => exact absurd hfuel (Nat.not_succ_le_zero _)
    | succ fuel =>
      have hpart := hcs c (List.mem_cons_self ..)
      have hslash : c ≠ '\\' := by
        rintro rfl
        exact absurd hpart (by decide)
      have hrest := ih (fun d hd => hcs d (List.mem_cons_of_mem c hd))
        (Nat.le_of_succ_le_succ hfuel) (c :: acc)
      simp [nameChars, hpart, hslash, hrest]

/-- **A word is read as one token**, whatever follows it. -/
theorem bare_of_isWord {name after : List Char} (hname : IsWord name) (hafter : EndsWord after)
    {fuel : Nat} (hfuel : name.length ≤ fuel) (pos : Nat) :
    bare fuel pos (name ++ after) = (.name (String.ofList name), after) := by
  obtain ⟨c, cs, rfl, hstart, hcs⟩ := hname
  have hpart := Text.isIdentPart_of_isIdentStart hstart
  have hchars : nameChars fuel [] false (c :: cs ++ after) = .ok (c :: cs, false, after) :=
    nameChars_append (List.forall_mem_cons.mpr ⟨hpart, hcs⟩) hafter hfuel [] false
  have hname : Lexer.name fuel pos (c :: cs ++ after) =
      (.name (String.ofList (c :: cs)), after) := by
    rw [Lexer.name, hchars]
    rfl
  rw [List.cons_append] at hname ⊢
  unfold bare
  split
  case h_1 heq => cases heq
  case h_10 heq =>
    obtain ⟨rfl, -⟩ := List.cons.inj heq
    rw [hstart, Bool.true_or, if_pos rfl, hname]
  -- what is left begins with a mark, and no mark begins an identifier
  all_goals
    next heq => exact absurd ((List.cons.inj heq).1 ▸ hstart) (by decide)

end Lexer

namespace Grammar

open Parse

/-- The words that no declaration may bind. -/
def unboundWords : List String := TokenKind.keywords ++ refusedNames ++ ["eval", "arguments"]

theorem bind_apply {α β : Type} {p : Parse α} {a : α} {c c' : Cursor} (h : p c = .ok (a, c'))
    (f : α → Parse β) : (p >>= f) c = f a c' := by
  show (p c >>= fun x => f x.1 x.2) = f a c'
  rw [h]
  rfl

theorem advance_of_name {name : String} {c : Cursor} (h : c.token.kind = .name name) :
    advance c = .ok (c.token, c.take (.name name) c.token.span.stop c.after) := by
  unfold advance
  rw [bind_apply (show (get : Parse Cursor) c = .ok (c, c) from rfl)]
  simp only [h]
  rfl

/-- **A declaration takes** a word that is not reserved, and finds no fault in it. -/
theorem boundText_of_not_mem {name : String} (h : name ∉ unboundWords) {c : Cursor}
    (hc : c.token.kind = .name name) :
    boundText c = .ok (name, c.take (.name name) c.token.span.stop c.after) := by
  simp only [unboundWords, List.mem_append, not_or] at h
  obtain ⟨⟨hkeyword, hrefused⟩, hunbound⟩ := h
  have hkeyword' : TokenKind.keywords.contains name = false := by simpa using hkeyword
  have hrefused' : refusedNames.contains name = false := by simpa using hrefused
  have hawait : name ≠ "await" := by
    rintro rfl
    exact hrefused (by decide)
  have harguments : name ≠ "arguments" := by
    rintro rfl
    exact hunbound (by decide)
  have hunbindable : isUnbindable name = false := by simpa [isUnbindable] using hunbound
  have hident : identText c = .ok (name, c.take (.name name) c.token.span.stop c.after) := by
    unfold identText
    rw [bind_apply (show (get : Parse Cursor) c = .ok (c, c) from rfl)]
    simp only [hc, hkeyword', hrefused', hawait, harguments, decide_false, Bool.false_and,
      Bool.false_or, Bool.false_eq_true, if_false]
    rw [bind_apply (advance_of_name hc)]
    rfl
  unfold boundText
  rw [bind_apply (show peek c = .ok (c.token, c) from rfl)]
  simp only [hc, hunbindable, Bool.false_eq_true, if_false]
  exact hident

end Grammar

/-! ### Made names -/

/-- The name can be bound in a module: it is read back as one word, which is not reserved, and a
declaration takes it. -/
structure IsBindable (name : String) : Prop where
  read : ∀ {after}, EndsWord after → ∀ {fuel}, name.length ≤ fuel → ∀ pos,
    Lexer.bare fuel pos (name.toList ++ after) = (.name name, after)
  reserved : TokenKind.isReserved name = false
  bound : ∀ {c : Cursor}, c.token.kind = .name name →
    Grammar.boundText c = .ok (name, c.take (.name name) c.token.span.stop c.after)

theorem isBindable_of_isWord {name : String} (hword : IsWord name.toList)
    (hunbound : name ∉ Grammar.unboundWords) : IsBindable name where
  read hafter _ hfuel pos := by
    rw [Lexer.bare_of_isWord hword hafter (by rwa [String.length_toList]), String.ofList_toList]
  reserved := by
    simp only [Grammar.unboundWords, Grammar.refusedNames, List.mem_append, List.mem_cons,
      not_or] at hunbound
    simp [TokenKind.isReserved, hunbound]
  bound hc := Grammar.boundText_of_not_mem hunbound hc

/-! ### Components -/

/-- ASCII letters and digits, from an upper case letter on, or from a digit behind a `_` on. -/
inductive IsComponentName : List Char → Prop where
  | capital {c : Char} {cs : List Char} (hc : c.isUpper = true)
      (hcs : ∀ d ∈ cs, d.isAlphanum = true) : IsComponentName (c :: cs)
  | guarded {c : Char} {cs : List Char} (hc : c.isDigit = true)
      (hcs : ∀ d ∈ cs, d.isAlphanum = true) : IsComponentName ('_' :: c :: cs)

namespace Options

theorem isAlphanum_of_capital_or_digit {c : Char} (h : c.isUpper = true ∨ c.isDigit = true) :
    c.isAlphanum = true := by
  rcases h with h | h <;> simp [Char.isAlphanum, Text.isAlpha_eq, h]

/-- The letters and digits: small letters have capital ones, and nothing is of two sorts. -/
theorem ascii_letters : ∀ n < 0x80, let c := Char.ofNat n
    (c.isLower = true → c.toUpper.isUpper = true ∧ c.toUpper.toLower = c.toLower) ∧
      (c.isUpper = true ∨ c.isDigit = true → ¬c.isLower = true) := by
  decide

theorem capital_of_isLower {c : Char} (h : c.isLower = true) :
    c.toUpper.isUpper = true ∧ c.toUpper.toLower = c.toLower := by
  have hascii : c.toNat < 0x80 :=
    Text.ascii_of_isAlphanum
      (by rw [Char.isAlphanum, Text.isAlpha_eq, h, Bool.or_true, Bool.true_or])
  have hletter := (ascii_letters c.toNat hascii).1
  rw [Char.ofNat_toNat] at hletter
  exact hletter h

theorem not_isLower_of_capital_or_digit {c : Char} (h : c.isUpper = true ∨ c.isDigit = true) :
    ¬c.isLower = true := by
  have hascii : c.toNat < 0x80 := Text.ascii_of_isAlphanum (isAlphanum_of_capital_or_digit h)
  have hother := (ascii_letters c.toNat hascii).2
  rw [Char.ofNat_toNat] at hother
  exact hother h

theorem toUpper_of_not_isLower {c : Char} (h : ¬c.isLower = true) : c.toUpper = c := by
  simp only [Text.isLower_eq, Bool.and_eq_true, decide_eq_true_eq] at h
  exact dif_neg h

theorem toLower_toUpper (c : Char) : c.toUpper.toLower = c.toLower := by
  by_cases h : c.isLower = true
  · exact (capital_of_isLower h).2
  · rw [toUpper_of_not_isLower h]

/-- A letter or digit at the front of a word is an upper case letter or a digit then. -/
theorem capital_or_digit {c : Char} (h : c.isAlphanum = true) :
    c.toUpper.isUpper = true ∨ c.toUpper.isDigit = true := by
  by_cases hlower : c.isLower = true
  · exact Or.inl (capital_of_isLower hlower).1
  · rw [toUpper_of_not_isLower hlower]
    simpa [Char.isAlphanum, Text.isAlpha_eq, hlower] using h

theorem map_toLower_capitalize (word : List Char) :
    (capitalize word).map Char.toLower = word.map Char.toLower := by
  cases word with
  | nil => rfl
  | cons c cs => rw [capitalize, List.map_cons, List.map_cons, toLower_toUpper]

/-- **The letters and digits of a name** are those of the file, up to the case of letters. -/
theorem map_toLower_pascalCase (stem : List Char) :
    (pascalCase stem).map Char.toLower = (stem.filter Char.isAlphanum).map Char.toLower := by
  have hkept : stem.filter Char.isAlphanum =
      (Text.splitAt (fun c => !c.isAlphanum) stem).flatten := by
    simp [Text.flatten_splitAt]
  rw [pascalCase, hkept, List.map_flatten, List.map_flatten, List.map_map]
  exact congrArg List.flatten (List.map_congr_left fun word _ => map_toLower_capitalize word)

/-- Words of letters and digits that are capitalized and run together are letters and digits, and
begin with an upper case letter or a digit. -/
theorem flatten_map_capitalize {words : List (List Char)}
    (h : ∀ word ∈ words, ∀ c ∈ word, c.isAlphanum = true) :
    (∀ c ∈ (words.map capitalize).flatten, c.isAlphanum = true) ∧
      ∀ c ∈ (words.map capitalize).flatten.head?, c.isUpper = true ∨ c.isDigit = true := by
  induction words with
  | nil => simp
  | cons word words ih =>
    obtain ⟨hword, hwords⟩ := List.forall_mem_cons.mp h
    obtain ⟨hall, hhead⟩ := ih hwords
    rw [List.map_cons, List.flatten_cons]
    cases word with
    | nil => exact ⟨hall, hhead⟩
    | cons c cs =>
      obtain ⟨hc, hcs⟩ := List.forall_mem_cons.mp hword
      have hfirst := capital_or_digit hc
      refine ⟨fun d hd => ?_, fun d hd => ?_⟩
      · rcases List.mem_append.mp hd with hd | hd
        · rcases List.mem_cons.mp hd with rfl | hd
          · exact isAlphanum_of_capital_or_digit hfirst
          · exact hcs d hd
        · exact hall d hd
      · obtain rfl : c.toUpper = d := Option.some.inj hd
        exact hfirst

/-- A name that begins as a run of capitalized words does is guarded where it has to be. -/
theorem isComponentName_guardDigit {c : Char} {cs : List Char}
    (hc : c.isUpper = true ∨ c.isDigit = true) (hcs : ∀ d ∈ cs, d.isAlphanum = true) :
    IsComponentName (Text.guardDigit (c :: cs)) := by
  rw [Text.guardDigit]
  split
  next hdigit => exact .guarded hdigit hcs
  next hdigit => exact .capital (hc.resolve_right hdigit) hcs

/-- The names that do not come from the file. -/
theorem isComponentName_fixed :
    ∀ name ∈ ["RootLayout", "Component", "ErrorBoundary"], IsComponentName name.toList := by
  have hcapital (name : String) (h : ∃ c ∈ name.toList.head?, c.isUpper = true)
      (hall : ∀ c ∈ name.toList, c.isAlphanum = true) : IsComponentName name.toList := by
    obtain ⟨c, hhead, hc⟩ := h
    obtain ⟨cs, hname⟩ := List.head?_eq_some_iff.mp hhead
    rw [hname] at hall ⊢
    exact .capital hc (List.forall_mem_cons.mp hall).2
  simp only [List.forall_mem_cons]
  refine ⟨hcapital _ ?_ ?_, hcapital _ ?_ ?_, hcapital _ ?_ ?_, by simp⟩ <;> simp

/-- What is run together are the words of a stem, which hold letters and digits alone. -/
theorem pascalCase_chars (stem : List Char) :
    (∀ c ∈ pascalCase stem, c.isAlphanum = true) ∧
      ∀ c ∈ (pascalCase stem).head?, c.isUpper = true ∨ c.isDigit = true := by
  refine flatten_map_capitalize fun word hword c hc => ?_
  simpa using Text.not_cut_of_mem_splitAt hword c hc

theorem isComponentName_derivedName (o : Options) : IsComponentName o.derivedName.toList := by
  unfold derivedName
  split
  next => exact isComponentName_fixed _ (by simp)
  split
  next => exact isComponentName_fixed _ (by simp)
  split
  next => exact isComponentName_fixed _ (by simp)
  have hchars := pascalCase_chars o.stem.toList
  split
  next => exact isComponentName_fixed _ (by simp)
  next hne =>
    rw [String.toList_ofList]
    cases hname : pascalCase o.stem.toList with
    | nil => exact absurd hname hne
    | cons c cs =>
      rw [hname] at hchars
      exact isComponentName_guardDigit (hchars.2 c rfl) (List.forall_mem_cons.mp hchars.1).2

/-- The name comes from the file. -/
structure IsNamedByStem (o : Options) : Prop where
  kind : o.kind ≠ .rootLayout
  stem : o.stem ∉ ["page", "", "error"]
  kept : ∃ c ∈ o.stem.toList, c.isAlphanum = true

theorem IsNamedByStem.pascalCase_ne_nil {o : Options} (h : o.IsNamedByStem) :
    pascalCase o.stem.toList ≠ [] := by
  intro hnil
  obtain ⟨c, hmem, hc⟩ := h.kept
  have hkept := map_toLower_pascalCase o.stem.toList
  rw [hnil, List.map_nil, eq_comm, List.map_eq_nil_iff, List.filter_eq_nil_iff] at hkept
  exact hkept c hmem hc

theorem IsNamedByStem.derivedName_eq {o : Options} (h : o.IsNamedByStem) :
    o.derivedName = String.ofList (Text.guardDigit (pascalCase o.stem.toList)) := by
  have hstem := h.stem
  simp only [List.mem_cons, List.not_mem_nil, or_false, not_or] at hstem
  unfold derivedName
  rw [if_neg h.kind, if_neg (by simp [hstem]), if_neg hstem.2.2]
  split
  next hnil => exact absurd hnil h.pascalCase_ne_nil
  next => rfl

/-- The guard of a name is neither a letter nor a digit. -/
theorem filter_guardDigit (cs : List Char) :
    (Text.guardDigit cs).filter Char.isAlphanum = cs.filter Char.isAlphanum := by
  rcases Migration.guardDigit_cases cs with hsame | ⟨c, rest, -, rfl, hguard⟩
  · rw [hsame]
  · rw [hguard]
    exact List.filter_cons_of_neg (by decide)

/-- **A name that comes from the file** has its letters and digits. -/
theorem map_toLower_derivedName {o : Options} (h : o.IsNamedByStem) :
    (o.derivedName.toList.filter Char.isAlphanum).map Char.toLower =
      (o.stem.toList.filter Char.isAlphanum).map Char.toLower := by
  have hall := (pascalCase_chars o.stem.toList).1
  rw [h.derivedName_eq, String.toList_ofList, filter_guardDigit,
    List.filter_eq_self.mpr hall, map_toLower_pascalCase]

end Options

/-! ### Stylesheets -/

/-- ASCII letters, digits, `_` and `$` that begin with no digit and end in `css`. -/
structure IsSheetName (name : List Char) : Prop where
  begins : ∃ c cs, name = c :: cs ∧ (c.isAlpha = true ∨ c = '_' ∨ c = '$') ∧
    ∀ d ∈ cs, isBindingChar d = true
  ends : "css".toList <:+ name

namespace Migration

theorem toList_stylesheetBinding (source : String) :
    (stylesheetBinding source).toList = Text.guardDigit (keptChars source ++ "css".toList) := by
  rw [stylesheetBinding_eq]
  exact String.toList_ofList

/-- What a source keeps is in the name, at its end. -/
theorem keptChars_suffix (source : String) :
    keptChars source ++ "css".toList <:+ (stylesheetBinding source).toList := by
  rw [toList_stylesheetBinding]
  rcases guardDigit_cases (keptChars source ++ "css".toList) with hsame | ⟨c, cs, -, hkept, hguard⟩
  · exact hsame.symm ▸ List.suffix_rfl
  · rw [hguard, hkept]
    exact List.suffix_cons _ _

theorem isBindingChar_of_mem_kept {source : String} {c : Char}
    (h : c ∈ keptChars source ++ "css".toList) : isBindingChar c = true := by
  have hcss : ∀ d ∈ "css".toList, isBindingChar d = true := by simp [isBindingChar]
  rcases List.mem_append.mp h with h | h
  · exact (List.mem_filter.mp h).2
  · exact hcss c h

theorem isSheetName_stylesheetBinding (source : String) :
    IsSheetName (stylesheetBinding source).toList where
  begins := by
    rw [toList_stylesheetBinding]
    obtain ⟨c, cs, hkept⟩ : ∃ c cs, keptChars source ++ "css".toList = c :: cs :=
      List.exists_cons_of_ne_nil (by simp)
    have hall : ∀ d ∈ c :: cs, isBindingChar d = true :=
      fun d hd => isBindingChar_of_mem_kept (hkept ▸ hd)
    rw [hkept, Text.guardDigit]
    split
    next => exact ⟨'_', c :: cs, rfl, Or.inr (Or.inl rfl), hall⟩
    next hdigit =>
      obtain ⟨hc, hcs⟩ := List.forall_mem_cons.mp hall
      refine ⟨c, cs, rfl, ?_, hcs⟩
      simp only [isBindingChar, Char.isAlphanum, hdigit, Bool.or_eq_true, beq_iff_eq, or_false,
        Bool.false_eq_true, or_assoc] at hc
      exact hc
  ends := (List.suffix_append _ _).trans (keptChars_suffix source)

end Migration

/-! ### Identifiers -/

theorem isBindingChar_of_isAlphanum {c : Char} (h : c.isAlphanum = true) :
    isBindingChar c = true := by
  rw [isBindingChar, h, Bool.true_or, Bool.true_or]

theorem IsComponentName.isWord {name : List Char} (h : IsComponentName name) : IsWord name := by
  have hpart {d : Char} (hd : d.isAlphanum = true) : Text.isIdentPart d = true :=
    Text.isIdentPart_of_isBindingChar (isBindingChar_of_isAlphanum hd)
  cases h with
  | @capital c cs hc hcs =>
    have halpha : c.isAlpha = true := by rw [Text.isAlpha_eq, hc, Bool.true_or]
    exact ⟨c, cs, rfl, Text.isIdentStart_of_isAlpha halpha, fun d hd => hpart (hcs d hd)⟩
  | @guarded c cs hc hcs =>
    have hdigit : c.isAlphanum = true := by rw [Char.isAlphanum, hc, Bool.or_true]
    exact ⟨'_', c :: cs, rfl, by decide,
      List.forall_mem_cons.mpr ⟨hpart hdigit, fun d hd => hpart (hcs d hd)⟩⟩

theorem IsSheetName.isWord {name : List Char} (h : IsSheetName name) : IsWord name := by
  obtain ⟨c, cs, rfl, hc, hcs⟩ := h.begins
  refine ⟨c, cs, rfl, ?_, fun d hd => Text.isIdentPart_of_isBindingChar (hcs d hd)⟩
  rcases hc with halpha | rfl | rfl
  · exact Text.isIdentStart_of_isAlpha halpha
  · decide
  · decide

/-- Reserved words begin with a lower case letter, and no component does. -/
theorem IsComponentName.not_mem_unboundWords {name : String} (h : IsComponentName name.toList) :
    name ∉ Grammar.unboundWords := by
  have hlower : ∀ word ∈ Grammar.unboundWords, word.toList.head?.any Char.isLower = true := by
    decide
  intro hmem
  have hfirst := hlower name hmem
  generalize name.toList = chars at h hfirst
  cases h with
  | capital hc hcs => exact Options.not_isLower_of_capital_or_digit (Or.inl hc) hfirst
  | guarded hc hcs => exact absurd (show '_'.isLower = true from hfirst) (by decide)

/-- No reserved word ends as the name of a stylesheet does. -/
theorem IsSheetName.not_mem_unboundWords {name : String} (h : IsSheetName name.toList) :
    name ∉ Grammar.unboundWords := by
  have hends : ∀ word ∈ Grammar.unboundWords, ¬"css".toList <:+ word.toList := by decide
  exact fun hmem => hends name hmem h.ends

/-- **Made names are identifiers.**  The name of a component that has none of its own consists of
ASCII letters and digits, from an upper case letter on, or from a digit behind a `_` on; where it
comes from the file, it has the letters and digits of the file's name, up to case.  The name of a
stylesheet consists of ASCII letters, digits, `_` and `$`, does not begin with a digit and ends in
what the source keeps and `css`.  Both are read back as one word that is not reserved, and that a
declaration may bind. -/
theorem made_names_are_identifiers (o : Options) (source : String) :
    (IsComponentName o.derivedName.toList ∧ IsBindable o.derivedName ∧
      (o.IsNamedByStem → (o.derivedName.toList.filter Char.isAlphanum).map Char.toLower =
        (o.stem.toList.filter Char.isAlphanum).map Char.toLower)) ∧
    IsSheetName (stylesheetBinding source).toList ∧ IsBindable (stylesheetBinding source) ∧
      Migration.keptChars source ++ "css".toList <:+ (stylesheetBinding source).toList := by
  have hcomponent := o.isComponentName_derivedName
  have hsheet := Migration.isSheetName_stylesheetBinding source
  refine ⟨⟨hcomponent, ?_, Options.map_toLower_derivedName⟩, hsheet, ?_,
    Migration.keptChars_suffix source⟩
  · exact isBindable_of_isWord hcomponent.isWord hcomponent.not_mem_unboundWords
  · exact isBindable_of_isWord hsheet.isWord hsheet.not_mem_unboundWords

/-- The file `404-page` and the stylesheet `./404.css`: both names need a guard. -/
theorem made_names_of_digits :
    let o : Options := { stem := "404-page" }
    let c : Cursor := .start .tsx 9 "_404Page(".toList
    o.derivedName = "_404Page" ∧ stylesheetBinding "./404.css" = "_404css" ∧
      (o.IsNamedByStem ∧ (o.derivedName.toList.filter Char.isAlphanum).map Char.toLower =
        (o.stem.toList.filter Char.isAlphanum).map Char.toLower) ∧
      (EndsWord ['('] ∧ Lexer.bare 9 0 ("_404Page".toList ++ ['(']) = (.name "_404Page", ['('])) ∧
      (c.token.kind = .name "_404Page" ∧ Grammar.boundText c =
        .ok ("_404Page", c.take (.name "_404Page") c.token.span.stop c.after)) ∧
      Migration.keptChars "./404.css" ++ "css".toList <:+ "_404css".toList := by
  intro o c
  obtain ⟨⟨-, hbindable, hletters⟩, -, -, hkept⟩ := made_names_are_identifiers o "./404.css"
  have hname : o.derivedName = "_404Page" := by decide
  have hsheet : stylesheetBinding "./404.css" = "_404css" := by decide
  have hnamed : o.IsNamedByStem := ⟨by decide, by decide, '4', by decide, by decide⟩
  rw [hname] at hbindable
  have hends : EndsWord ['('] := by
    rintro c' ⟨⟩
    decide
  have hread : Lexer.bare 9 0 ("_404Page".toList ++ ['(']) = (.name "_404Page", ['(']) :=
    hbindable.read hends (by decide) 0
  have hnext : c.token.kind = .name "_404Page" := rfl
  exact ⟨hname, hsheet, ⟨hnamed, hletters hnamed⟩, ⟨hends, hread⟩, ⟨hnext, hbindable.bound hnext⟩,
    hsheet ▸ hkept⟩

end RouteMigration
