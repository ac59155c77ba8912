import Criteria.Dialect.BuiltIn

/-!
# Quoted names

A scanner for quoted names, to which a doubled closing quote is a character of the name and a single
one is its end. It reads exactly the quoted names: it stops right behind the quoted name that a text
begins with, unless another closing quote follows there. A shorter quoted name stands at the
beginning of a quoted name only where the name itself has a closing quote.
-/

namespace Criteria

namespace Quotes

variable {q : Quotes}

/-- A name with its closing quotes doubled. -/
def doubled (q : Quotes) (name : List Char) : List Char :=
  name.flatMap fun c => if c = q.closing then [c, c] else [c]

theorem doubled_closing (name : List Char) :
    q.doubled (q.closing :: name) = q.closing :: q.closing :: q.doubled name := by
  simp [doubled]

theorem doubled_other {c : Char} (other : c ≠ q.closing) (name : List Char) :
    q.doubled (c :: name) = c :: q.doubled name := by
  simp [doubled, other]

theorem doubled_append (name others : List Char) :
    q.doubled (name ++ others) = q.doubled name ++ q.doubled others :=
  List.flatMap_append

theorem quoteChars_eq (name : List Char) :
    q.quoteChars name = q.opening :: (q.doubled name ++ [q.closing]) := rfl

/-- Reads a quoted name behind its opening quote: the name, and what stands behind it. -/
def scanName (q : Quotes) : List Char → Option (List Char × List Char)
  | [] => none
  | [c] => if c = q.closing then some ([], []) else none
  | c :: d :: s =>
    if c = q.closing then
      if d = q.closing then (scanName q s).map (.map (c :: ·) id) else some ([], d :: s)
    else (scanName q (d :: s)).map (.map (c :: ·) id)

theorem scanName_other {c : Char} (other : c ≠ q.closing) (s : List Char) :
    q.scanName (c :: s) = (q.scanName s).map (.map (c :: ·) id) := by
  cases s with
  | nil => simp [scanName, other]
  | cons d s => rw [scanName, if_neg other]

theorem scanName_pair (s : List Char) : q.scanName (q.closing :: q.closing :: s) =
    (q.scanName s).map (.map (q.closing :: ·) id) := by
  rw [scanName, if_pos rfl, if_pos rfl]

theorem scanName_end {s : List Char} (apart : s.head? ≠ some q.closing) :
    q.scanName (q.closing :: s) = some ([], s) := by
  cases s with
  | nil => rw [scanName, if_pos rfl]
  | cons d s => rw [scanName, if_pos rfl, if_neg fun same => apart (congrArg some same)]

/-- A doubled name is read to its end, and reading goes on behind it. -/
theorem scanName_doubled (name s : List Char) :
    q.scanName (q.doubled name ++ s) = (q.scanName s).map (.map (name ++ ·) id) := by
  induction name with
  | nil => exact (congrFun Option.map_id (q.scanName s)).symm
  | cons c name ih =>
    by_cases closing : c = q.closing
    · subst closing
      rw [doubled_closing, List.cons_append, List.cons_append, scanName_pair, ih, Option.map_map]
      rfl
    · rw [doubled_other closing, List.cons_append, scanName_other closing, ih, Option.map_map]
      rfl

/-- Nothing but doubled names is read, and where one ends no other closing quote follows. -/
theorem eq_of_scanName {s name rest : List Char} (read : q.scanName s = some (name, rest)) :
    s = q.doubled name ++ q.closing :: rest ∧ rest.head? ≠ some q.closing := by
  fun_induction scanName q s generalizing name rest with
  | case1 => cases read
  | case2 => cases read; exact ⟨rfl, nofun⟩
  | case3 => cases read
  | case4 s ih =>
    obtain ⟨⟨others, rest⟩, found, same⟩ := Option.map_eq_some_iff.mp read
    cases same
    obtain ⟨whole, apart⟩ := ih found
    rw [doubled_closing, whole]
    exact ⟨rfl, apart⟩
  | case5 d s other =>
    cases read
    exact ⟨rfl, fun same => other (Option.some.inj same)⟩
  | case6 c d s other ih =>
    obtain ⟨⟨others, rest⟩, found, same⟩ := Option.map_eq_some_iff.mp read
    cases same
    obtain ⟨whole, apart⟩ := ih found
    rw [doubled_other other, whole]
    exact ⟨rfl, apart⟩

/-- Reads the quoted name that a text begins with: the name, and what stands behind it. -/
def scanChars? (q : Quotes) : List Char → Option (List Char × List Char)
  | [] => none
  | c :: s => if c = q.opening then q.scanName s else none

theorem scanChars?_eq_some_iff {s name rest : List Char} :
    q.scanChars? s = some (name, rest) ↔
      s = q.quoteChars name ++ rest ∧ rest.head? ≠ some q.closing := by
  rw [quoteChars_eq, List.cons_append, List.append_assoc, List.singleton_append]
  constructor
  · intro read
    cases s with
    | nil => cases read
    | cons c s =>
      by_cases opening : c = q.opening
      · rw [scanChars?, if_pos opening] at read
        obtain ⟨whole, apart⟩ := eq_of_scanName read
        exact ⟨by rw [opening, whole], apart⟩
      · rw [scanChars?, if_neg opening] at read
        cases read
  · rintro ⟨rfl, apart⟩
    rw [scanChars?, if_pos rfl, scanName_doubled, scanName_end apart]
    simp

def scan? (q : Quotes) (s : String) : Option (String × String) :=
  (q.scanChars? s.toList).map (.map String.ofList String.ofList)

theorem scan?_eq_some_iff {s name rest : String} :
    q.scan? s = some (name, rest) ↔
      s = q.quote name ++ rest ∧ rest.toList.head? ≠ some q.closing := by
  have chars : q.scan? s = some (name, rest) ↔
      q.scanChars? s.toList = some (name.toList, rest.toList) := by
    constructor
    · intro read
      obtain ⟨⟨n, r⟩, found, same⟩ := Option.map_eq_some_iff.mp read
      cases same
      rw [found, String.toList_ofList, String.toList_ofList]
    · intro found
      rw [scan?, found, Option.map_some, Prod.map_apply, String.ofList_toList, String.ofList_toList]
  rw [chars, scanChars?_eq_some_iff, ← String.toList_inj, String.toList_append, quote,
    String.toList_ofList]

/-- The name that a whole text is the quoted form of. -/
def unquote? (q : Quotes) (s : String) : Option String :=
  (q.scan? s).bind fun (name, rest) => if rest = "" then some name else none

theorem unquote?_eq_some_iff {s name : String} : q.unquote? s = some name ↔ s = q.quote name := by
  have whole : q.unquote? s = some name ↔ q.scan? s = some (name, "") := by
    cases read : q.scan? s with
    | none => simp [unquote?, read]
    | some pair =>
      obtain ⟨n, r⟩ := pair
      by_cases empty : r = "" <;> simp [unquote?, read, empty]
  rw [whole, scan?_eq_some_iff]
  simp

theorem unquote?_quote (name : String) : q.unquote? (q.quote name) = some name :=
  unquote?_eq_some_iff.mpr rfl

theorem quote_injective : Function.Injective q.quote := by
  intro m n same
  have read := q.unquote?_quote m
  rw [same, unquote?_quote] at read
  exact (Option.some.inj read).symm

/-- A shorter quoted name stands at the beginning of a quoted name where the name goes on with a
closing quote, and nowhere else. -/
theorem exists_quote_append_iff {name inner : String} :
    (∃ rest, rest ≠ "" ∧ q.quote name = q.quote inner ++ rest) ↔
      ∃ others, name = inner ++ String.singleton q.closing ++ others := by
  constructor
  · rintro ⟨rest, more, whole⟩
    -- If no closing quote stood there, the scan would stop at two places.
    have front : rest.toList.head? = some q.closing := by
      refine Decidable.byContradiction fun apart => ?_
      have long : q.scan? (q.quote name) = some (inner, rest) :=
        scan?_eq_some_iff.mpr ⟨whole, apart⟩
      have own : q.scan? (q.quote name) = some (name, "") :=
        scan?_eq_some_iff.mpr ⟨by simp, by simp⟩
      rw [own] at long
      exact more (Prod.mk.inj (Option.some.inj long)).2.symm
    obtain ⟨behind, front⟩ := List.head?_eq_some_iff.mp front
    have chars : q.doubled name.toList ++ [q.closing] =
        q.doubled inner.toList ++ q.closing :: q.closing :: behind := by
      have whole := congrArg String.toList whole
      rw [String.toList_append, quote, quote, String.toList_ofList, String.toList_ofList,
        quoteChars_eq, quoteChars_eq, front] at whole
      simpa using whole
    have ended : q.scanName [q.closing] = some ([], []) := scanName_end nofun
    have read := congrArg q.scanName chars
    rw [scanName_doubled, ended, scanName_doubled, scanName_pair, Option.map_map] at read
    obtain ⟨⟨others, rest⟩, -, same⟩ := Option.map_eq_some_iff.mp read.symm
    refine ⟨String.ofList others, String.toList_inj.mp ?_⟩
    have same := congrArg Prod.fst same
    simpa using same.symm
  · rintro ⟨others, rfl⟩
    refine ⟨String.ofList (q.closing :: (q.doubled others.toList ++ [q.closing])), by simp, ?_⟩
    simp [← String.toList_inj, quote, quoteChars_eq, doubled_append, doubled_closing]

theorem length_lt_of_scanChars? {s name rest : List Char}
    (read : q.scanChars? s = some (name, rest)) : rest.length < s.length := by
  rw [(scanChars?_eq_some_iff.mp read).1, quoteChars_eq]
  simp
  omega

/-- Reads quoted names with points between them. -/
def dottedChars? (q : Quotes) (s : List Char) : Option (List (List Char)) :=
  match read : q.scanChars? s with
  | none => none
  | some (name, []) => some [name]
  | some (name, c :: rest) =>
    have : rest.length + 1 < s.length := length_lt_of_scanChars? read
    if c = '.' then (q.dottedChars? rest).map (name :: ·) else none
termination_by s.length

def dotted? (q : Quotes) (s : String) : Option (List String) :=
  if s = "" then some [] else (q.dottedChars? s.toList).map (·.map String.ofList)

theorem dottedChars?_last (name : List Char) :
    q.dottedChars? (q.quoteChars name) = some [name] := by
  have read : q.scanChars? (q.quoteChars name) = some (name, []) :=
    scanChars?_eq_some_iff.mpr ⟨(List.append_nil _).symm, nofun⟩
  rw [dottedChars?]
  split <;> rename_i found <;> rw [read] at found <;> cases found
  rfl

theorem dottedChars?_point (point : q.closing ≠ '.') (name s : List Char) :
    q.dottedChars? (q.quoteChars name ++ '.' :: s) = (q.dottedChars? s).map (name :: ·) := by
  have read : q.scanChars? (q.quoteChars name ++ '.' :: s) = some (name, '.' :: s) :=
    scanChars?_eq_some_iff.mpr ⟨rfl, fun same => point (Option.some.inj same).symm⟩
  rw [dottedChars?]
  split <;> rename_i found <;> rw [read] at found <;> cases found
  rfl

theorem dottedChars?_quotes (point : q.closing ≠ '.') (name : String) (names : List String) :
    q.dottedChars? (String.intercalate "." ((name :: names).map q.quote)).toList =
      some ((name :: names).map String.toList) := by
  induction names generalizing name with
  | nil =>
    rw [List.map_singleton, String.intercalate_singleton, quote, String.toList_ofList,
      dottedChars?_last]
    rfl
  | cons other names ih =>
    have others := ih other
    have dot : ".".toList = ['.'] := rfl
    rw [List.map_cons] at others
    rw [List.map_cons, List.map_cons, String.intercalate_cons_cons, String.toList_append,
      String.toList_append, quote, String.toList_ofList, List.append_assoc, dot,
      List.singleton_append, dottedChars?_point point, others]
    rfl

/-- Quoted names that are joined by points come apart again. -/
theorem dotted?_quotes (point : q.closing ≠ '.') (names : List String) :
    q.dotted? (String.intercalate "." (names.map q.quote)) = some names := by
  cases names with
  | nil => rfl
  | cons name names =>
    have read := dottedChars?_quotes point name names
    have filled : String.intercalate "." ((name :: names).map q.quote) ≠ "" := by
      intro empty
      rw [empty] at read
      simp [dottedChars?, scanChars?] at read
    rw [dotted?, if_neg filled, read, Option.map_some, List.map_map]
    simp [Function.comp_def]

end Quotes

namespace Dialect

theorem closing_ne_point : ∀ d ∈ builtIn, d.quotes.closing ≠ '.' := by decide

/-- No name can end its quoted form early. What is quoted is read back whatever the name is and
whatever follows, up to another closing quote, and so are names that are joined by points. -/
theorem names_of_quoted {d : Dialect} (known : d ∈ builtIn) :
    (∀ name rest : String, rest.toList.head? ≠ some d.quotes.closing →
      d.quotes.scan? (d.quote name ++ rest) = some (name, rest)) ∧
    Function.Injective d.quote ∧
    (∀ name, d.quotes.unquote? (d.quote name) = some name) ∧
    (∀ name front inner, d.quotes.unquote? front = some inner →
      ((∃ rest, rest ≠ "" ∧ d.quote name = front ++ rest) ↔
        ∃ others, name = inner ++ String.singleton d.quotes.closing ++ others)) ∧
    ∀ names : List String,
      d.quotes.dotted? (String.intercalate "." (names.map d.quote)) = some names := by
  refine ⟨?_, d.quotes.quote_injective, d.quotes.unquote?_quote, ?_, ?_⟩
  · intro name rest apart
    exact Quotes.scan?_eq_some_iff.mpr ⟨rfl, apart⟩
  · intro name front inner complete
    rw [Quotes.unquote?_eq_some_iff.mp complete]
    exact Quotes.exists_quote_append_iff
  · exact Quotes.dotted?_quotes (closing_ne_point d known)

theorem names_of_quoted_brackets :
    sqlserver ∈ builtIn ∧ sqlserver.quote "]" ++ ".[x]" = "[]]].[x]" ∧
      sqlserver.quotes.scan? "[]]].[x]" = some ("]", ".[x]") ∧
      sqlserver.quotes.unquote? "[a]" = some "a" ∧
      (∃ rest, rest ≠ "" ∧ sqlserver.quote "a]b" = "[a]" ++ rest) ∧
      sqlserver.quotes.dotted? "[a]]b].[].[]]]" = some ["a]b", "", "]"] := by
  have known : sqlserver ∈ builtIn := by decide
  obtain ⟨scanned, -, unquoted, shorter, dotted⟩ := names_of_quoted known
  have whole : sqlserver.quote "]" ++ ".[x]" = "[]]].[x]" := by decide
  have read := scanned "]" ".[x]" (by decide)
  have inner := unquoted "a"
  have short : sqlserver.quote "a" = "[a]" := by decide
  have joined : String.intercalate "." (["a]b", "", "]"].map sqlserver.quote) =
      "[a]]b].[].[]]]" := by decide
  rw [whole] at read
  rw [short] at inner
  exact ⟨known, whole, read, inner, (shorter "a]b" "[a]" "a" inner).mpr ⟨"b", by decide⟩,
    joined ▸ dotted _⟩

/-- A quoted name may begin with another one: what `]` is quoted as begins with what the empty name
is quoted as. -/
theorem not_prefixFree :
    ¬ ∀ d ∈ builtIn, ∀ name front rest : String, rest ≠ "" → d.quote name = front ++ rest →
      d.quotes.unquote? front = none := by
  intro free
  have unread := free sqlserver (by decide) "]" "[]" "]]" (by decide) (by decide)
  have read : sqlserver.quotes.unquote? "[]" = some "" :=
    Quotes.unquote?_eq_some_iff.mpr (by decide)
  rw [read] at unread
  cases unread

end Dialect
end Criteria
