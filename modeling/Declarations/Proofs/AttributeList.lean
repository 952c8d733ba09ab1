import Declarations.Config
import Mathlib.Tactic.ByContra

/-!
# Lists of attributes

A setting lists attributes between commas, with any white space around them and in letters of either
case.  Every part of the list is read by itself.  So two lists that are joined by a comma are read
one after the other, the first part that stands for nothing is the error, and a set that is written
out by its keywords is read back as that set.
-/

namespace Declarations

namespace Text

variable {before core after text : List Char}

theorem parts_eq_splitOn (text : List Char) : parts text = text.splitOn ',' := by
  induction text with
  | nil => rfl
  | cons character rest ih =>
    have hrest : rest.splitOnP (fun other => other == ',') = parts rest := by
      rw [ih, List.splitOn_eq_splitOnP]
    rw [List.splitOn_eq_splitOnP, List.splitOnP_cons_eq_if_modifyHead, hrest]
    by_cases hcomma : character = ','
    · simp [parts, hcomma]
    · have hne : parts rest ≠ [] := by
        rw [← hrest]
        exact List.splitOnP_ne_nil _ _
      obtain ⟨part, others, hparts⟩ := List.exists_cons_of_ne_nil hne
      simp [parts, hparts, hcomma]

theorem dropWhile_isWhiteSpace_append
    (hbefore : ∀ character ∈ before, isWhiteSpace character = true)
    (hcore : ∀ character ∈ core, isWhiteSpace character = false) (hne : core ≠ []) :
    (before ++ (core ++ after)).dropWhile isWhiteSpace = core ++ after := by
  obtain ⟨first, others, rfl⟩ := List.exists_cons_of_ne_nil hne
  have hfirst : ¬isWhiteSpace first = true := by simp [hcore first List.mem_cons_self]
  rw [List.dropWhile_append_of_pos hbefore, List.cons_append, List.dropWhile_cons_of_neg hfirst]

/-- The white space around a word is taken off at both ends. -/
theorem trim_surrounded (hbefore : ∀ character ∈ before, isWhiteSpace character = true)
    (hafter : ∀ character ∈ after, isWhiteSpace character = true)
    (hcore : ∀ character ∈ core, isWhiteSpace character = false) (hne : core ≠ []) :
    trim (before ++ core ++ after) = core := by
  have hback : (after.reverse ++ (core.reverse ++ [])).dropWhile isWhiteSpace =
      core.reverse ++ [] := by
    apply dropWhile_isWhiteSpace_append
    · simpa using hafter
    · simpa using hcore
    · simpa using hne
  rw [trim, List.append_assoc, dropWhile_isWhiteSpace_append hbefore hcore hne,
    List.reverse_append, ← List.append_nil core.reverse, hback, List.append_nil,
    List.reverse_reverse]

/-- Plain text without capital letters is its own lower-case form. -/
theorem lower_of_plain
    (hplain : ∀ character ∈ text, character.toNat < 128 ∧ character.toLower = character) :
    lower text = text := by
  suffices hafter : ∀ beforeReversed, lowerAfter beforeReversed text = text from hafter []
  induction text with
  | nil => intro _; rfl
  | cons character rest ih =>
    intro beforeReversed
    obtain ⟨hcharacter, hrest⟩ := List.forall_mem_cons.mp hplain
    have hsigma : character ≠ 'Σ' := by
      rintro rfl
      exact absurd hcharacter.1 (by decide)
    have hdotted : character ≠ 'İ' := by
      rintro rfl
      exact absurd hcharacter.1 (by decide)
    rw [lowerAfter, ih hrest, lowerBetween, if_neg hsigma, if_neg hdotted,
      lowerChar_of_lt hcharacter.1, hcharacter.2, List.singleton_append]

end Text

namespace Attributes

open Text

/-- The words of a list: what stands between its commas, without the white space around it and in
lower case. -/
def words (text : String) : List String :=
  (text.toList.splitOn ',').map Text.word

def vocabulary : List String :=
  ["", "none", "all", "pure", "safe", "@safe", "nothrow", "nogc", "@nogc"]

variable {cause : ConfigError} {word : String}

theorem parse_eq_ofWords (text : String) : parse text = ofWords (words text) := by
  rw [parse, words, parts_eq_splitOn]

/-! ## The words of a list -/

/-- The words of two lists that are joined by a comma are those of the one and then those of the
other. -/
theorem words_append_comma (first second : String) :
    words (first ++ "," ++ second) = words first ++ words second := by
  have hjoined : (first ++ "," ++ second).toList = first.toList ++ ',' :: second.toList := by
    simp [String.toList_append]
  rw [words, hjoined, List.splitOn_append_cons_self, List.map_append, words, words]

/-- Texts without commas that are joined by commas are the parts of the whole. -/
theorem words_intercalate {texts : List String} (hne : texts ≠ [])
    (hcomma : ∀ text ∈ texts, ',' ∉ text.toList) :
    words (",".intercalate texts) = texts.map fun text => Text.word text.toList := by
  have hparts : ∀ part ∈ texts.map String.toList, ',' ∉ part := by simpa using hcomma
  rw [words, String.toList_intercalate]
  have hsplit := List.splitOn_intercalate ',' hparts (by simpa using hne)
  have hseparator : ",".toList = [','] := by rfl
  rw [hseparator, hsplit, List.map_map]
  rfl

/-! ## What words stand for -/

theorem ofWord?_eq_none_iff : ofWord? word = none ↔ word ∉ vocabulary := by
  unfold ofWord?
  simp only [vocabulary, List.mem_cons, List.not_mem_nil, or_false, not_or]
  grind

theorem ofWords_cons_of_none {rest : List String} (hword : ofWord? word = none) :
    ofWords (word :: rest) = .error (.unknownAttribute word) := by
  simp [ofWords, hword]

theorem ofWords_cons_of_some {rest : List String} {named : Attributes}
    (hword : ofWord? word = some named) :
    ofWords (word :: rest) = (ofWords rest).map fun others => named ∪ others := by
  simp only [ofWords, hword]
  cases ofWords rest <;> rfl

/-- A list of words is read from left to right, so what stands in front decides first. -/
theorem ofWords_append (first second : List String) :
    ofWords (first ++ second) = do
      let left ← ofWords first
      let right ← ofWords second
      return left ∪ right := by
  induction first with
  | nil =>
    have hempty : ∀ right : Attributes, ∅ ∪ right = right := by
      intro right
      ext guarantee
      simp
    rw [List.nil_append]
    cases ofWords second with
    | error cause => rfl
    | ok right => exact congrArg Except.ok (hempty right).symm
  | cons word rest ih =>
    cases hword : ofWord? word with
    | none =>
      rw [List.cons_append, ofWords_cons_of_none hword, ofWords_cons_of_none hword]
      rfl
    | some named =>
      have hassoc : ∀ left right : Attributes, named ∪ (left ∪ right) = named ∪ left ∪ right := by
        intro left right
        ext guarantee
        simp [or_assoc]
      rw [List.cons_append, ofWords_cons_of_some hword, ofWords_cons_of_some hword, ih]
      cases ofWords rest with
      | error cause => rfl
      | ok left =>
        cases ofWords second with
        | error cause => rfl
        | ok right => exact congrArg Except.ok (hassoc left right)

/-- Reading fails at the first word that stands for nothing, and at no other one. -/
theorem ofWords_eq_error_iff {list : List String} : ofWords list = .error cause ↔
    ∃ word, cause = .unknownAttribute word ∧ list.find? (· ∉ vocabulary) = some word := by
  induction list with
  | nil => simp [ofWords]
  | cons word rest ih =>
    cases hword : ofWord? word with
    | none =>
      have hunknown := ofWord?_eq_none_iff.mp hword
      rw [ofWords_cons_of_none hword, List.find?_cons_of_pos (by simpa using hunknown)]
      simp [eq_comm]
    | some named =>
      have hknown : word ∈ vocabulary := by
        by_contra hunknown
        rw [ofWord?_eq_none_iff.mpr hunknown] at hword
        contradiction
      rw [ofWords_cons_of_some hword, List.find?_cons_of_neg (by simpa using hknown), ← ih]
      cases ofWords rest <;> simp [Except.map]

/-- Reading succeeds when every word stands for something. -/
theorem exists_ofWords_iff {list : List String} :
    (∃ attributes, ofWords list = .ok attributes) ↔ ∀ word ∈ list, word ∈ vocabulary := by
  have hknown : (∀ word ∈ list, word ∈ vocabulary) ↔ list.find? (· ∉ vocabulary) = none := by
    simp
  rw [hknown]
  cases hread : ofWords list with
  | ok attributes =>
    simp only [exists_eq', Except.ok.injEq, true_iff]
    by_contra hfound
    obtain ⟨word, hword⟩ := Option.ne_none_iff_exists'.mp hfound
    rw [ofWords_eq_error_iff.mpr ⟨word, rfl, hword⟩] at hread
    contradiction
  | error cause =>
    obtain ⟨word, -, hword⟩ := ofWords_eq_error_iff.mp hread
    rw [hword]
    simp

/-! ## Writing a set out -/

/-- The keyword of an attribute with white space around it. -/
structure Listed where
  guarantee : Attribute
  before : String := ""
  after : String := ""
  before_blank : before.toList.all isWhiteSpace = true := by decide
  after_blank : after.toList.all isWhiteSpace = true := by decide

def Listed.text (listed : Listed) : String :=
  listed.before ++ listed.guarantee.keyword ++ listed.after

theorem Listed.isWhiteSpace_before (listed : Listed) :
    ∀ character ∈ listed.before.toList, isWhiteSpace character = true :=
  List.all_eq_true.mp listed.before_blank

theorem Listed.isWhiteSpace_after (listed : Listed) :
    ∀ character ∈ listed.after.toList, isWhiteSpace character = true :=
  List.all_eq_true.mp listed.after_blank

theorem ofWord?_keyword (guarantee : Attribute) : ofWord? guarantee.keyword = some {guarantee} := by
  cases guarantee <;> rfl

/-- A keyword has no comma, no white space and no capital letter. -/
theorem keyword_plain (guarantee : Attribute) :
    ∀ character ∈ guarantee.keyword.toList, character ≠ ',' ∧ isWhiteSpace character = false ∧
      character.toNat < 128 ∧ character.toLower = character := by
  have hplain : guarantee.keyword.toList.all fun character => character ≠ ',' &&
      !isWhiteSpace character && character.toNat < 128 && character.toLower = character := by
    cases guarantee <;> decide
  intro character hmem
  simpa [and_assoc] using List.all_eq_true.mp hplain character hmem

theorem Listed.notMem_text (listed : Listed) : ',' ∉ listed.text.toList := by
  have hblank : isWhiteSpace ',' = false := by decide
  simp only [text, String.toList_append, List.mem_append, not_or]
  refine ⟨⟨?_, ?_⟩, ?_⟩
  · intro hmem
    simp [listed.isWhiteSpace_before ',' hmem] at hblank
  · intro hmem
    exact (keyword_plain listed.guarantee ',' hmem).1 rfl
  · intro hmem
    simp [listed.isWhiteSpace_after ',' hmem] at hblank

/-- What is written for an attribute is read as its keyword. -/
theorem Listed.word_text (listed : Listed) :
    Text.word listed.text.toList = listed.guarantee.keyword := by
  have hplain := keyword_plain listed.guarantee
  have hne : listed.guarantee.keyword.toList ≠ [] := by cases listed.guarantee <;> decide
  have htrim : trim listed.text.toList = listed.guarantee.keyword.toList := by
    rw [text, String.toList_append, String.toList_append]
    apply trim_surrounded listed.isWhiteSpace_before listed.isWhiteSpace_after _ hne
    intro character hcharacter
    exact (hplain character hcharacter).2.1
  have hlower : lower listed.guarantee.keyword.toList = listed.guarantee.keyword.toList := by
    apply lower_of_plain
    intro character hcharacter
    exact (hplain character hcharacter).2.2
  rw [Text.word, htrim, hlower, String.ofList_toList]

/-- Keywords are read as the set of their attributes. -/
theorem ofWords_keywords (list : List Attribute) :
    ofWords (list.map Attribute.keyword) = .ok (FlagSet.ofList list) := by
  induction list with
  | nil => rfl
  | cons guarantee rest ih =>
    rw [List.map_cons, ofWords_cons_of_some (ofWord?_keyword guarantee), ih]
    rfl

/-- What is written out by its keywords is read back. -/
theorem parse_listing (listing : List Listed) :
    parse (",".intercalate (listing.map Listed.text)) =
      .ok (FlagSet.ofList (listing.map Listed.guarantee)) := by
  cases hlisting : listing with
  | nil => rfl
  | cons first others =>
    rw [← hlisting]
    have hne : listing.map Listed.text ≠ [] := by simp [hlisting]
    have hcomma : ∀ text ∈ listing.map Listed.text, ',' ∉ text.toList := by
      intro text htext
      obtain ⟨listed, -, rfl⟩ := List.mem_map.mp htext
      exact listed.notMem_text
    have hkeywords : (listing.map Listed.text).map (fun text => Text.word text.toList) =
        (listing.map Listed.guarantee).map Attribute.keyword := by
      simp [Listed.word_text]
    rw [parse_eq_ofWords, words_intercalate hne hcomma, hkeywords, ofWords_keywords]

/-! ## Lists -/

/-- Lists that are joined by a comma are read one after the other, and their sets are united.  A
list can be read when every word of it is in the vocabulary, and otherwise the error names the first
one that is not.  A set is read back from its keywords in any order, with repetitions and with white
space around them. -/
theorem parse_composes :
    (∀ first second : String, parse (first ++ "," ++ second) = do
      let left ← parse first
      let right ← parse second
      return left ∪ right) ∧
    (∀ text : String, (∃ attributes, parse text = .ok attributes) ↔
      ∀ word ∈ words text, word ∈ vocabulary) ∧
    (∀ (text : String) (cause : ConfigError), parse text = .error cause ↔
      ∃ word, cause = .unknownAttribute word ∧ (words text).find? (· ∉ vocabulary) = some word) ∧
    ∀ (attributes : Attributes) (listing : List Listed),
      (∀ guarantee, guarantee ∈ attributes ↔ guarantee ∈ listing.map Listed.guarantee) →
      parse (",".intercalate (listing.map Listed.text)) = .ok attributes := by
  refine ⟨?_, ?_, ?_, ?_⟩
  · intro first second
    simp only [parse_eq_ofWords, words_append_comma]
    exact ofWords_append (words first) (words second)
  · intro text
    rw [parse_eq_ofWords]
    exact exists_ofWords_iff
  · intro text cause
    rw [parse_eq_ofWords]
    exact ofWords_eq_error_iff
  · intro attributes listing hsame
    have hset : attributes = FlagSet.ofList (listing.map Listed.guarantee) := by
      ext guarantee
      rw [hsame, FlagSet.mem_ofList]
    rw [parse_listing, hset]

/-- The attributes of memory and of exceptions, the one written twice. -/
def memoryAndExceptions : List Listed :=
  [{ guarantee := .nogc, before := " ", after := "\t" }, { guarantee := .nothrow },
    { guarantee := .nogc, before := "\u2003" }]

theorem parse_composes_memoryAndExceptions :
    (∀ guarantee : Attribute, guarantee ∈ ({.nothrow, .nogc} : Attributes) ↔
      guarantee ∈ memoryAndExceptions.map Listed.guarantee) ∧
    parse " @nogc\t,nothrow,\u2003@nogc" = .ok {.nothrow, .nogc} := by
  have hsame : ∀ guarantee : Attribute, guarantee ∈ ({.nothrow, .nogc} : Attributes) ↔
      guarantee ∈ memoryAndExceptions.map Listed.guarantee := by
    intro guarantee
    cases guarantee <;> decide
  have htext : ",".intercalate (memoryAndExceptions.map Listed.text) =
      " @nogc\t,nothrow,\u2003@nogc" := by decide
  have hread := parse_composes.2.2.2 _ memoryAndExceptions hsame
  rw [htext] at hread
  exact ⟨hsame, hread⟩

/-- Of two words that stand for nothing the first one is the error, and a part without a word is
fine. -/
example : parse "pure,, @System ,trusted" = .error (.unknownAttribute "@system") := by
  cbv

end Attributes

end Declarations
