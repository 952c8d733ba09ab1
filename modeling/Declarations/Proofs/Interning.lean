import Declarations.Interner
import Mathlib.Data.Finset.Card
import Mathlib.Data.List.Nodup

/-!
# Texts and names

The texts of an interner and its map back from the texts to their places grow in separate steps.
Whatever is asked of an interner, in whatever order, the two stay inverse to each other: a text has
one name, a name has one text, and neither ever changes.
-/

namespace Declarations.Interner

inductive Request where
  /-- The name of a text, which is a new one if the text is new. -/
  | intern (text : String)
  /-- The name of a text, if it has one. -/
  | find (text : String)
  /-- The text of a name. -/
  | read (name : Name)
  deriving DecidableEq

inductive Answer where
  | named (name : Name)
  | found (name : Option Name)
  | text (text : String)
  deriving DecidableEq

def Request.interned? : Request → Option String
  | intern text => some text
  | find _ | read _ => none

def answer (interner : Interner) : Request → Except InternError (Answer × Interner)
  | .intern text => do
      let (name, interner) ← interner.tryIntern text
      return (.named name, interner)
  | .find text => .ok (.found (interner.find? text), interner)
  | .read name => .ok (.text (interner.text name), interner)

def run : Interner → List Request → Except InternError (List (Request × Answer) × Interner)
  | interner, [] => .ok ([], interner)
  | interner, request :: rest => do
      let (answer, interner) ← interner.answer request
      let (exchanges, interner) ← run interner rest
      return ((request, answer) :: exchanges, interner)

def given (requests : List Request) : List String :=
  Name.wellKnownTexts ++ requests.filterMap Request.interned?

/-- What is known after some requests: every text once, in the order in which they came. -/
def known (requests : List Request) : List String :=
  (given requests).eraseDups

/-- The answer to a request as the requests before it determine it: the name of a text is its place
among the known ones. -/
def expected (earlier : List Request) : Request → Answer
  | .intern text => .named ⟨(known (earlier ++ [.intern text])).idxOf text⟩
  | .find text => .found (((known earlier).idxOf? text).map Name.mk)
  | .read name => .text ((known earlier)[name.index]?.getD "")

variable {interner : Interner} {requests : List Request} {exchanges : List (Request × Answer)}
variable {text : String} {name : Name}

/-! ## One request -/

/-- A text that has a name keeps it. -/
theorem find?_intern_of_find? (found : interner.find? text = some name) (other : String) :
    (interner.intern other).2.find? text = some name := by
  have hplace : interner.texts.toList[name.index]? = some text := by
    simpa using find?_eq_some_iff.mp found
  have hlater : (interner.intern other).2.texts.toList[name.index]? = some text := by
    rw [toList_texts_intern]
    split
    · exact hplace
    · rw [List.getElem?_append_left (List.getElem?_eq_some_iff.mp hplace).1, hplace]
  exact find?_eq_some_iff.mpr (by simpa using hlater)

/-- No text stands at two places. -/
theorem nodup_texts (interner : Interner) : interner.texts.toList.Nodup := by
  rw [List.nodup_iff_getElem?_ne_getElem?]
  intro first second hless hbound hsame
  have hsecond : interner.texts.toList[second]? = some interner.texts.toList[second] :=
    List.getElem?_eq_getElem hbound
  have hfirst := hsame.trans hsecond
  rw [Array.getElem?_toList, ← interner.inverse] at hfirst hsecond
  rw [hsecond, Option.some.injEq] at hfirst
  exact Nat.ne_of_gt hless hfirst

/-- The map finds the place where a text stands. -/
theorem find?_eq_idxOf? (interner : Interner) (text : String) :
    interner.find? text = (interner.texts.toList.idxOf? text).map Name.mk := by
  cases hfound : interner.find? text with
  | none =>
    rw [List.idxOf?_eq_none_iff.mpr (find?_eq_none_iff.mp hfound), Option.map_none]
  | some name =>
    have hplace : interner.texts.toList[name.index]? = some text := by
      simpa using find?_eq_some_iff.mp hfound
    obtain ⟨hbound, htext⟩ := List.getElem?_eq_some_iff.mp hplace
    have hindex : interner.texts.toList.idxOf? text = some name.index := by
      rw [← htext, List.idxOf?_eq_some_iff]
      refine ⟨hbound, rfl, ?_⟩
      intro earlier hearlier hsame
      have hless : earlier = name.index := (nodup_texts interner).getElem_inj_iff.mp hsame
      exact Nat.ne_of_lt hearlier hless
    rw [hindex, Option.map_some]

/-- The texts with fixed names stand where their names say. -/
theorem find?_wellKnownTexts (interner : Interner) :
    Name.wellKnownTexts.map interner.find? = Name.wellKnown.map some := by
  have hplaces : ∀ entry ∈ Name.wellKnownTexts.zipIdx,
      interner.find? entry.1 = some ⟨entry.2⟩ := by
    intro entry hentry
    have htext : Name.wellKnownTexts[entry.2]? = some entry.1 :=
      List.mem_zipIdx_iff_getElem?.mp hentry
    obtain ⟨rest, hrest⟩ := interner.startsFixed
    rw [find?_eq_some_iff, ← Array.getElem?_toList, ← hrest,
      List.getElem?_append_left (List.getElem?_eq_some_iff.mp htext).1, htext]
  calc
    Name.wellKnownTexts.map interner.find? =
        Name.wellKnownTexts.zipIdx.map fun entry => interner.find? entry.1 := rfl
    _ = Name.wellKnownTexts.zipIdx.map fun entry => some ⟨entry.2⟩ := List.map_congr_left hplaces
    _ = Name.wellKnown.map some := rfl

theorem exists_find?_iff (interner : Interner) (name : Name) :
    (∃ text, interner.find? text = some name) ↔ name.index < interner.size := by
  simp only [find?_eq_some_iff, size]
  rw [← Option.isSome_iff_exists]
  simp

theorem text_of_size_le (hbeyond : interner.size ≤ name.index) : interner.text name = "" := by
  rw [text, Array.getElem?_eq_none hbeyond, Option.getD_none]

theorem known_append_intern (requests : List Request) (text : String) :
    known (requests ++ [.intern text]) =
      if text ∈ known requests then known requests else known requests ++ [text] := by
  have hgiven : given (requests ++ [.intern text]) = given requests ++ [text] := by
    simp [given, Request.interned?]
  simp only [known, hgiven, List.eraseDups_append, List.mem_eraseDups]
  split
  · next hmem => simp [List.removeAll, hmem]
  · next hmem => simp [List.removeAll, hmem, List.eraseDups_cons]

theorem known_append_of_interned?_eq_none {request : Request} (hrequest : request.interned? = none)
    (requests : List Request) : known (requests ++ [request]) = known requests := by
  simp [known, given, hrequest]

/-- Further requests add to what is known. -/
theorem length_known_le (requests later : List Request) :
    (known requests).length ≤ (known (requests ++ later)).length := by
  have hgiven : given (requests ++ later) =
      given requests ++ later.filterMap Request.interned? := by
    simp [given]
  rw [known, known, hgiven, List.eraseDups_append, List.length_append]
  exact Nat.le_add_right _ _

/-- The answers so far are the expected ones, and the interner knows what the requests made known
and still finds every name that it has given out. -/
structure Remembers (requests : List Request) (exchanges : List (Request × Answer))
    (interner : Interner) : Prop where
  requests_eq : exchanges.map Prod.fst = requests
  texts_eq : interner.texts.toList = known requests
  answer_eq : ∀ past request answer, past ++ [(request, answer)] <+: exchanges →
    answer = expected (past.map Prod.fst) request
  find?_eq : ∀ text answer, (.intern text, answer) ∈ exchanges →
    ∃ name, answer = .named name ∧ interner.find? text = some name

namespace Remembers

theorem initial : Remembers [] [] .initial where
  requests_eq := rfl
  texts_eq := by decide
  answer_eq := by simp
  find?_eq := by simp

theorem size_eq (hremembers : Remembers requests exchanges interner) :
    interner.size = (known requests).length := by
  rw [← hremembers.texts_eq, size, Array.length_toList]

/-- One more request is answered as expected, and every name that was found is found again. -/
theorem extend (hremembers : Remembers requests exchanges interner) {request : Request}
    {reply : Answer} {after : Interner}
    (htexts : after.texts.toList = known (requests ++ [request]))
    (hreply : reply = expected requests request)
    (hkeeps : ∀ text name, interner.find? text = some name → after.find? text = some name)
    (hnames : ∀ text, request = .intern text →
      ∃ name, reply = .named name ∧ after.find? text = some name) :
    Remembers (requests ++ [request]) (exchanges ++ [(request, reply)]) after where
  requests_eq := by rw [List.map_append, hremembers.requests_eq, List.map_singleton]
  texts_eq := htexts
  answer_eq past other answer hpast := by
    rw [List.prefix_concat_iff] at hpast
    cases hpast with
    | inl hnow =>
      obtain ⟨hpast, hlast⟩ := List.append_inj' hnow rfl
      cases hlast
      rw [hpast, hremembers.requests_eq, hreply]
    | inr hearlier => exact hremembers.answer_eq past other answer hearlier
  find?_eq text answer hmem := by
    rw [List.mem_append, List.mem_singleton] at hmem
    cases hmem with
    | inl hearlier =>
      obtain ⟨name, hanswer, hname⟩ := hremembers.find?_eq text answer hearlier
      exact ⟨name, hanswer, hkeeps text name hname⟩
    | inr hnow =>
      rw [Prod.mk.injEq] at hnow
      rw [hnow.2]
      exact hnames text hnow.1.symm

/-- There is room for a text as long as no more texts are known than there are names. -/
theorem tryIntern_eq (hremembers : Remembers requests exchanges interner)
    (hroom : (known (requests ++ [.intern text])).length ≤ capacity) :
    interner.tryIntern text = .ok (interner.intern text) := by
  rw [tryIntern, if_pos]
  cases hfound : interner.find? text with
  | some name => rfl
  | none =>
    have hnew : text ∉ known requests := by
      rw [← hremembers.texts_eq]
      exact find?_eq_none_iff.mp hfound
    rw [known_append_intern, if_neg hnew, List.length_append, List.length_singleton,
      ← hremembers.size_eq] at hroom
    exact decide_eq_true hroom

/-- A text is interned. -/
theorem intern (hremembers : Remembers requests exchanges interner) (text : String) :
    Remembers (requests ++ [.intern text])
      (exchanges ++ [(.intern text, .named (interner.intern text).1)])
      (interner.intern text).2 := by
  have htexts : (interner.intern text).2.texts.toList = known (requests ++ [.intern text]) := by
    rw [toList_texts_intern, known_append_intern, hremembers.texts_eq]
  apply hremembers.extend htexts
  · have hname : (known (requests ++ [.intern text])).idxOf? text =
        some (interner.intern text).1.index := by
      have hfound := find?_intern interner text
      rw [find?_eq_idxOf?, htexts, Option.map_eq_some_iff] at hfound
      obtain ⟨place, hplace, hname⟩ := hfound
      rw [hplace, ← hname]
    rw [expected, List.idxOf_eq_getD_idxOf?, hname, Option.getD_some]
  · intro other name hother
    exact find?_intern_of_find? hother text
  · intro other hother
    cases hother
    exact ⟨(interner.intern text).1, rfl, find?_intern interner text⟩

/-- A question changes nothing. -/
theorem ask (hremembers : Remembers requests exchanges interner) {request : Request}
    (hrequest : request.interned? = none) :
    Remembers (requests ++ [request]) (exchanges ++ [(request, expected requests request)])
      interner := by
  apply hremembers.extend _ rfl
  · intro text name hname
    exact hname
  · intro text htext
    rw [htext] at hrequest
    contradiction
  · rw [known_append_of_interned?_eq_none hrequest, hremembers.texts_eq]

/-- One request is answered. -/
theorem exists_answer (hremembers : Remembers requests exchanges interner) (request : Request)
    (hroom : (known (requests ++ [request])).length ≤ capacity) :
    ∃ reply after, interner.answer request = .ok (reply, after) ∧
      Remembers (requests ++ [request]) (exchanges ++ [(request, reply)]) after := by
  cases request with
  | intern text =>
    have htry := hremembers.tryIntern_eq hroom
    exact ⟨_, _, by simp only [answer, htry]; rfl, hremembers.intern text⟩
  | find text =>
    refine ⟨_, interner, ?_, hremembers.ask rfl⟩
    rw [answer, expected, find?_eq_idxOf?, hremembers.texts_eq]
  | read name =>
    refine ⟨_, interner, ?_, hremembers.ask rfl⟩
    rw [answer, expected, Interner.text, ← hremembers.texts_eq, Array.getElem?_toList]

/-- All requests are answered. -/
theorem exists_run (hremembers : Remembers requests exchanges interner) (later : List Request)
    (hroom : (known (requests ++ later)).length ≤ capacity) :
    ∃ further after, interner.run later = .ok (further, after) ∧
      Remembers (requests ++ later) (exchanges ++ further) after := by
  induction later generalizing requests exchanges interner with
  | nil => exact ⟨[], interner, rfl, by simpa using hremembers⟩
  | cons request later ih =>
    have hsplit : requests ++ request :: later = requests ++ [request] ++ later := by simp
    rw [hsplit] at hroom ⊢
    -- What is known only grows, so there is room for each request if there is for all.
    obtain ⟨reply, middle, hanswer, hmiddle⟩ := hremembers.exists_answer request
      ((length_known_le _ _).trans hroom)
    obtain ⟨further, after, hrun, hafter⟩ := ih hmiddle hroom
    refine ⟨(request, reply) :: further, after, ?_, by simpa using hafter⟩
    simp only [run, hanswer, bind, Except.bind, hrun]
    rfl

end Remembers

/-! ## A whole run -/

/-- Texts and names belong together one to one. -/
structure OneToOne (requests : List Request) (exchanges : List (Request × Answer))
    (interner : Interner) : Prop where
  /-- Every request is answered in its turn. -/
  requests_eq : exchanges.map Prod.fst = requests
  /-- The answer is the one that the requests before it determine. -/
  answer_eq : ∀ past request answer, past ++ [(request, answer)] <+: exchanges →
    answer = expected (past.map Prod.fst) request
  /-- A text that was interned keeps its name, and the name keeps its text. -/
  keeps : ∀ text answer, (.intern text, answer) ∈ exchanges → ∃ name, answer = .named name ∧
    interner.find? text = some name ∧ interner.text name = text
  /-- Two texts were given the same name exactly if they are the same. -/
  named_iff : ∀ first second name other, (.intern first, .named name) ∈ exchanges →
    (.intern second, .named other) ∈ exchanges → (name = other ↔ first = second)
  /-- Only texts with fixed names and texts that were interned have names. -/
  isSome_find?_iff : ∀ text, (interner.find? text).isSome ↔
    text ∈ Name.wellKnownTexts ∨ .intern text ∈ requests
  /-- To ask for a name changes nothing. -/
  answer_find : ∀ text,
    interner.answer (.find text) = .ok (.found (interner.find? text), interner)
  /-- To read a name changes nothing. -/
  answer_read : ∀ name, interner.answer (.read name) = .ok (.text (interner.text name), interner)
  /-- Names are given out in the order in which the texts came. -/
  find?_eq_some_iff : ∀ text name,
    interner.find? text = some name ↔ (known requests)[name.index]? = some text
  /-- The first of them are the fixed ones. -/
  find?_wellKnown : Name.wellKnownTexts.map interner.find? = Name.wellKnown.map some
  /-- The names that are in use are the numbers below the number of texts. -/
  exists_find?_iff : ∀ name, (∃ text, interner.find? text = some name) ↔
    name.index < interner.size
  /-- Any other name reads as the empty text. -/
  text_of_size_le : ∀ name, interner.size ≤ name.index → interner.text name = ""
  /-- Every text is counted once. -/
  size_eq : interner.size = (given requests).toFinset.card

namespace Remembers

theorem find?_eq_some_iff (hremembers : Remembers requests exchanges interner) (text : String)
    (name : Name) :
    interner.find? text = some name ↔ (known requests)[name.index]? = some text := by
  rw [Interner.find?_eq_some_iff, ← hremembers.texts_eq, Array.getElem?_toList]

theorem isSome_find?_iff (hremembers : Remembers requests exchanges interner) (text : String) :
    (interner.find? text).isSome ↔ text ∈ Name.wellKnownTexts ∨ .intern text ∈ requests := by
  have hinterned : text ∈ requests.filterMap Request.interned? ↔ .intern text ∈ requests := by
    rw [List.mem_filterMap]
    constructor
    · rintro ⟨request, hmem, hrequest⟩
      cases request with
      | intern other =>
        cases hrequest
        exact hmem
      | find other | read other => contradiction
    · intro hmem
      exact ⟨.intern text, hmem, rfl⟩
  calc
    (interner.find? text).isSome ↔ text ∈ known requests := by
      rw [Option.isSome_iff_ne_none, ne_eq, find?_eq_none_iff, hremembers.texts_eq,
        Classical.not_not]
    _ ↔ text ∈ given requests := List.mem_eraseDups
    _ ↔ text ∈ Name.wellKnownTexts ∨ .intern text ∈ requests := by
      rw [given, List.mem_append, hinterned]

theorem size_eq_card (hremembers : Remembers requests exchanges interner) :
    interner.size = (given requests).toFinset.card := by
  have hknown : (known requests).toFinset = (given requests).toFinset := by
    ext text
    rw [List.mem_toFinset, List.mem_toFinset, known, List.mem_eraseDups]
  have hnodup : (known requests).Nodup := by
    rw [← hremembers.texts_eq]
    exact nodup_texts interner
  rw [← hknown, List.toFinset_card_of_nodup hnodup, hremembers.size_eq]

theorem oneToOne (hremembers : Remembers requests exchanges interner) :
    OneToOne requests exchanges interner where
  requests_eq := hremembers.requests_eq
  answer_eq := hremembers.answer_eq
  keeps text answer hmem := by
    obtain ⟨name, hanswer, hname⟩ := hremembers.find?_eq text answer hmem
    exact ⟨name, hanswer, hname, text_of_find? hname⟩
  named_iff first second name other hfirst hsecond := by
    obtain ⟨_, hname, hfound⟩ := hremembers.find?_eq first _ hfirst
    obtain ⟨_, hother, hlater⟩ := hremembers.find?_eq second _ hsecond
    cases hname
    cases hother
    constructor
    · intro hsame
      rw [← text_of_find? hfound, hsame, text_of_find? hlater]
    · intro hsame
      rw [hsame, hlater, Option.some.injEq] at hfound
      exact hfound.symm
  isSome_find?_iff := hremembers.isSome_find?_iff
  answer_find _ := rfl
  answer_read _ := rfl
  find?_eq_some_iff := hremembers.find?_eq_some_iff
  find?_wellKnown := find?_wellKnownTexts interner
  exists_find?_iff := interner.exists_find?_iff
  text_of_size_le _ := text_of_size_le
  size_eq := hremembers.size_eq_card

end Remembers

/-- Every sequence of requests to a new interner that makes no more texts known than there are
names is answered, and texts and names belong together one to one. -/
theorem exists_run_oneToOne (requests : List Request)
    (hroom : (known requests).length ≤ capacity) :
    ∃ exchanges interner, initial.run requests = .ok (exchanges, interner) ∧
      OneToOne requests exchanges interner := by
  obtain ⟨exchanges, interner, hrun, hremembers⟩ := Remembers.initial.exists_run requests hroom
  exact ⟨exchanges, interner, hrun, hremembers.oneToOne⟩

/-- A fixed text, a new one twice, the empty one, and a question about a text that was never
interned. -/
def mixedRequests : List Request :=
  [.intern "main", .intern "local", .find "unseen", .intern "local", .intern "", .read ⟨10⟩]

theorem exists_run_oneToOne_mixedRequests :
    (known mixedRequests).length ≤ capacity ∧
    ∃ exchanges interner, initial.run mixedRequests = .ok (exchanges, interner) ∧
      OneToOne mixedRequests exchanges interner := by
  have hroom : (known mixedRequests).length ≤ capacity := by decide
  exact ⟨hroom, exists_run_oneToOne mixedRequests hroom⟩

end Declarations.Interner
