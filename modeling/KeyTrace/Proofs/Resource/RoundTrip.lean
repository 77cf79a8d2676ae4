import KeyTrace.Proofs.Resource.Elements

/-!
# Names that are written and read again

A name is written as the value of an attribute, with an entity for each character that has a
meaning in markup. Reading finds the element and the attribute and resolves the entities, so that
the name comes back. But whether an element has a type is looked up in all that stands between its
brackets, the name included: a name with a place that reads like the attribute `type` or `mimetype`
gives its element away as one of a typed value, and is not read.

## Main definitions

* `Markup.escape`, `Markup.attributes`, `Markup.document`: names as they are written.
* `Markup.ReadsLike`, `Markup.LooksTyped`: names that read like an attribute.

## Main results

* `Markup.decode_escape`: resolving the entities of an escaped text.
* `Markup.hasFrom_iff`: whether a text has an attribute.
* `Markup.isTyped_attributes`: whether a name gives its element a type.
* `Markup.names_document`: which names are read again.
-/

namespace KeyTrace

namespace Markup

/-! ### Writing -/

/-- A character as it is written in a value: with an entity if it has a meaning in markup. -/
def escapeChar (c : Char) : List Char :=
  match c with
  | '&' => ['&', 'a', 'm', 'p', ';']
  | '<' => ['&', 'l', 't', ';']
  | '>' => ['&', 'g', 't', ';']
  | '"' => ['&', 'q', 'u', 'o', 't', ';']
  | c => [c]

/-- A text as it is written in a value. -/
def escape (s : List Char) : List Char := s.flatMap escapeChar

/-- What stands before a name, after the name of the element. -/
def beforeName : List Char := [' ', 'n', 'a', 'm', 'e', '=', '"']

/-- What stands after a name and its quote. -/
def afterName : List Char := " xml:space=\"preserve\"".toList

/-- The attributes of the element of an entry. -/
def attributes (name : List Char) : List Char := beforeName ++ (escape name ++ '"' :: afterName)

/-- The element of an entry as far as its first bracket that closes. -/
def opening (name : List Char) : List Char := '<' :: (elementName ++ attributes name) ++ ['>']

/-- What stands before a value. -/
def beforeValue : List Char := "<value>".toList

/-- What stands after a value. -/
def afterValue : List Char := "</value></data>".toList

/-- The element of an entry after its first bracket that closes. -/
def content (value : List Char) : List Char := beforeValue ++ (escape value ++ afterValue)

/-- The elements of entries one after the other, each with its name and value. -/
def document (entries : List (String × String)) : List Char :=
  entries.flatMap fun e => opening e.1.toList ++ content e.2.toList

/-! ### Escaped texts -/

/-- The characters with a meaning in markup. -/
def special : List Char := ['&', '<', '>', '"']

theorem mem_special {c : Char} : c ∈ special ↔ c = '&' ∨ c = '<' ∨ c = '>' ∨ c = '"' := by
  simp [special]

theorem escapeChar_of_not_special {c : Char} (hc : c ∉ special) : escapeChar c = [c] := by
  simp only [mem_special, not_or] at hc
  obtain ⟨hamp, hlt, hgt, hquot⟩ := hc
  rw [escapeChar]
  all_goals assumption

theorem escape_cons (c : Char) (s : List Char) : escape (c :: s) = escapeChar c ++ escape s := rfl

/-- No bracket and no quote stands in an escaped text. -/
theorem not_mem_escape (s : List Char) : ∀ c ∈ escape s, c ∉ ['<', '>', '"'] := by
  intro c hc
  obtain ⟨d, -, hd⟩ := List.mem_flatMap.1 hc
  by_cases hspecial : d ∈ special
  · have hsmall : ∀ d ∈ special, ∀ c ∈ escapeChar d, c ∉ ['<', '>', '"'] := by
      simp [special, escapeChar]
    exact hsmall d hspecial c hd
  · rw [escapeChar_of_not_special hspecial, List.mem_singleton] at hd
    exact hd ▸ fun h => hspecial (List.mem_cons_of_mem '&' h)

theorem decodeFrom_escapeChar (c : Char) (s : List Char) :
    decodeFrom 0 (escapeChar c ++ s) = c :: decodeFrom 0 s := by
  by_cases hspecial : c ∈ special
  · rcases mem_special.1 hspecial with rfl | rfl | rfl | rfl <;> rfl
  · have hamp : ¬(c == '&') = true := fun h =>
      hspecial (by rw [beq_iff_eq.1 h]; exact List.mem_cons_self)
    rw [escapeChar_of_not_special hspecial, List.singleton_append, decodeFrom, if_neg hamp]

/-- **Resolving the entities of an escaped text** gives the text. -/
theorem decode_escape (s : List Char) : decode (escape s) = s := by
  rw [decode]
  induction s with
  | nil => rfl
  | cons c s ih => rw [escape_cons, decodeFrom_escapeChar, ih]

/-- What has no meaning in markup stands at the start of a value just if it stands at the start of
the text that is written there. -/
theorem prefix_escape {p : List Char} (hp : ∀ c ∈ p, c ∉ special) (s r : List Char) :
    p <+: escape s ++ '"' :: r ↔ p <+: s := by
  induction p generalizing s with
  | nil => simp
  | cons c p ih =>
    have hc : c ∉ special := hp c List.mem_cons_self
    have hrest := ih fun d hd => hp d (List.mem_cons_of_mem c hd)
    cases s with
    | nil =>
      have hquot : c ≠ '"' := fun h => hc (h ▸ by decide)
      simp [escape, List.cons_prefix_cons, hquot]
    | cons d s =>
      rw [escape_cons]
      by_cases hspecial : d ∈ special
      · have hhead : ∀ d ∈ special, (escapeChar d).head? = some '&' := by
          simp [special, escapeChar]
        obtain ⟨t, ht⟩ := List.head?_eq_some_iff.1 (hhead d hspecial)
        have hamp : c ≠ '&' := fun h => hc (h ▸ by decide)
        have hd : c ≠ d := fun h => hc (h ▸ hspecial)
        simp [ht, List.cons_prefix_cons, hamp, hd]
      · rw [escapeChar_of_not_special hspecial, List.append_assoc, List.singleton_append,
          List.cons_prefix_cons, List.cons_prefix_cons, hrest]

/-! ### Attributes -/

/-- The text begins with the name of an attribute and the sign of equality. -/
def Begins (name s : List Char) : Prop :=
  ∃ blanks, (∀ c ∈ blanks, Blank.isBlank c = true) ∧ name ++ (blanks ++ ['=']) <+: s

/-- In the text is a place that reads like the attribute of the given name. -/
def ReadsLike (name s : List Char) : Prop :=
  ∃ before rest, s = before ++ rest ∧ before.getLast?.any Word.isWord = false ∧ Begins name rest

theorem afterEquals_isSome_iff {s : List Char} :
    (afterEquals s).isSome = true ↔
      ∃ blanks, (∀ c ∈ blanks, Blank.isBlank c = true) ∧ blanks ++ ['='] <+: s := by
  constructor
  · intro h
    refine ⟨s.takeWhile Blank.isBlank, fun c hc => List.mem_takeWhile_imp hc, ?_⟩
    unfold afterEquals at h
    split at h
    · rename_i rest hrest
      conv_rhs => rw [← List.takeWhile_append_dropWhile (p := Blank.isBlank) (l := s), hrest]
      exact ⟨rest, by simp⟩
    · cases h
  · rintro ⟨blanks, hblanks, rest, rfl⟩
    rw [afterEquals, List.append_assoc, List.dropWhile_append_of_pos hblanks]
    rfl

theorem begins_iff {name s : List Char} :
    (name.isPrefixOf s && (afterEquals (s.drop name.length)).isSome) = true ↔ Begins name s := by
  rw [Bool.and_eq_true, List.isPrefixOf_iff_prefix, afterEquals_isSome_iff]
  constructor
  · rintro ⟨⟨t, rfl⟩, blanks, hblanks, ht⟩
    rw [List.drop_left] at ht
    exact ⟨blanks, hblanks, (List.prefix_append_right_inj name).2 ht⟩
  · rintro ⟨blanks, hblanks, t, rfl⟩
    refine ⟨⟨_, (List.append_assoc ..).symm⟩, blanks, hblanks, ?_⟩
    rw [List.append_assoc, List.drop_left]
    exact List.prefix_append ..

/-- **Whether a text has an attribute**: there is a place in it that reads like one, where the
character before the text counts for its first place. -/
theorem hasFrom_iff {name s : List Char} {before : Option Char} :
    hasFrom name before s = true ↔ ∃ t rest, s = t ++ rest ∧
      (t.getLast?.or before).any Word.isWord = false ∧ Begins name rest := by
  induction s generalizing before with
  | nil =>
    constructor
    · intro h
      cases h
    · rintro ⟨t, rest, hs, -, blanks, -, hpre⟩
      obtain ⟨-, rfl⟩ := List.append_eq_nil_iff.1 hs.symm
      simp at hpre
  | cons c s ih =>
    rw [hasFrom, Bool.or_eq_true, Bool.and_assoc, Bool.and_eq_true, begins_iff, ih,
      Bool.not_eq_true']
    constructor
    · rintro (⟨hword, hbegins⟩ | ⟨t, rest, rfl, hword, hbegins⟩)
      · exact ⟨[], c :: s, rfl, by simpa using hword, hbegins⟩
      · refine ⟨c :: t, rest, rfl, ?_, hbegins⟩
        rw [List.getLast?_cons]
        cases hlast : t.getLast? <;> simpa [hlast] using hword
    · rintro ⟨t, rest, hs, hword, hbegins⟩
      cases t with
      | nil => exact Or.inl ⟨by simpa using hword, by simpa [hs] using hbegins⟩
      | cons d t =>
        obtain ⟨rfl, rfl⟩ := List.cons.inj hs
        refine Or.inr ⟨t, rest, rfl, ?_, hbegins⟩
        rw [List.getLast?_cons] at hword
        cases hlast : t.getLast? <;> simpa [hlast] using hword

theorem readsLike_iff {name s : List Char} : ReadsLike name s ↔ hasFrom name none s = true := by
  simp only [ReadsLike, hasFrom_iff, Option.or_none]

/-! ### Names that look like a type -/

/-- The names of the attributes that give an element a type. -/
def typeNames : List (List Char) := [['t', 'y', 'p', 'e'], ['m', 'i', 'm', 'e', 't', 'y', 'p', 'e']]

/-- A name with a place that reads like an attribute that gives a type. -/
def LooksTyped (name : List Char) : Prop := ∃ t ∈ typeNames, ReadsLike t name

theorem mem_typeNames {t : List Char} (h : t ∈ typeNames) :
    t = ['t', 'y', 'p', 'e'] ∨ t = ['m', 'i', 'm', 'e', 't', 'y', 'p', 'e'] := by
  simpa [typeNames] using h

theorem isTyped_iff {s : List Char} :
    isTyped s = true ↔ ∃ t ∈ typeNames, hasFrom t none s = true := by
  simp [isTyped, typeNames]

theorem looksTyped_iff {name : List Char} : LooksTyped name ↔ isTyped name = true := by
  simp only [LooksTyped, isTyped_iff, readsLike_iff]

instance (name : List Char) : Decidable (LooksTyped name) :=
  decidable_of_iff (isTyped name = true) looksTyped_iff.symm

/-- Only whether the character before a text is part of a word counts. -/
theorem hasFrom_congr {before before' : Option Char}
    (h : before.any Word.isWord = before'.any Word.isWord) (name s : List Char) :
    hasFrom name before s = hasFrom name before' s := by
  cases s with
  | nil => rfl
  | cons c s => rw [hasFrom, hasFrom, h]

theorem begins_escape {t : List Char} (ht : t ∈ typeNames) (s r : List Char) :
    Begins t (escape s ++ '"' :: r) ↔ Begins t s := by
  refine exists_congr fun blanks => and_congr_right fun hblanks => prefix_escape ?_ s r
  have hname : ∀ t ∈ typeNames, ∀ c ∈ t, c ∉ special := by simp [typeNames, special]
  have hblank : ∀ c ∈ special, (!Blank.isBlank c) = true := List.all_eq_true.1 (by decide)
  intro c hc
  rw [List.mem_append, List.mem_append, List.mem_singleton] at hc
  rcases hc with hc | hc | rfl
  · exact hname t ht c hc
  · exact fun hspecial => by simpa [hblanks c hc] using hblank c hspecial
  · decide

/-- No word goes on after a character with a meaning in markup. -/
theorem isWord_of_special {c : Char} (hc : c ∈ special) : Word.isWord c = false := by
  rcases mem_special.1 hc with rfl | rfl | rfl | rfl <;> rfl

/-- Neither an entity nor the character it stands for reads like the beginning of an attribute that
gives a type, and no word goes on after either. -/
theorem hasFrom_escapeChar {t : List Char} (ht : t ∈ typeNames) {c : Char} (hc : c ∈ special)
    (before : Option Char) (s : List Char) :
    hasFrom t before (escapeChar c ++ s) = hasFrom t none s ∧
      hasFrom t before (c :: s) = hasFrom t none s := by
  have hword : Word.isWord 'a' = true := rfl
  have hsemicolon : hasFrom t (some ';') s = hasFrom t none s :=
    hasFrom_congr (by rfl) t s
  have hspecial : hasFrom t (some c) s = hasFrom t none s :=
    hasFrom_congr (by simp [isWord_of_special hc]) t s
  rcases mem_typeNames ht with rfl | rfl <;>
    rcases mem_special.1 hc with rfl | rfl | rfl | rfl <;>
    simp [escapeChar, hasFrom, hword, List.isPrefixOf, hsemicolon, hspecial]

/-- Whether a written text has an attribute that gives a type is seen in the text alone. -/
theorem hasFrom_escape {t : List Char} (ht : t ∈ typeNames) (before : Option Char)
    (s r : List Char) :
    hasFrom t before (escape s ++ '"' :: r) = (hasFrom t before s || hasFrom t none r) := by
  induction s generalizing before with
  | nil => exact (hasFrom_escapeChar ht (by decide) before r).2
  | cons c s ih =>
    by_cases hc : c ∈ special
    · rw [escape_cons, List.append_assoc, (hasFrom_escapeChar ht hc before _).1,
        (hasFrom_escapeChar ht hc before _).2, ih]
    · have hbegins := begins_escape ht (c :: s) r
      rw [← begins_iff, ← begins_iff, ← Bool.eq_iff_iff] at hbegins
      rw [escape_cons, escapeChar_of_not_special hc, List.append_assoc,
        List.singleton_append] at hbegins ⊢
      rw [hasFrom, hasFrom, Bool.and_assoc, Bool.and_assoc, hbegins, ih, Bool.or_assoc]

/-- **Whether a name gives its element a type**: it does just if it looks like that. -/
theorem isTyped_attributes (name : List Char) :
    isTyped (attributes name) = decide (LooksTyped name) := by
  have hword : Word.isWord 'a' = true := rfl
  have hname : ∀ t ∈ typeNames, hasFrom t none (attributes name) = hasFrom t none name := by
    intro t ht
    have hbefore : hasFrom t none (attributes name) =
        hasFrom t (some '"') (escape name ++ '"' :: afterName) := by
      rcases mem_typeNames ht with rfl | rfl <;>
        simp [attributes, beforeName, hasFrom, List.isPrefixOf, hword]
    have hafter : hasFrom t none afterName = false := by
      rcases mem_typeNames ht with rfl | rfl <;> rfl
    rw [hbefore, hasFrom_escape ht, hafter, Bool.or_false]
    exact hasFrom_congr (by rfl) t name
  rw [Bool.eq_iff_iff, decide_eq_true_iff, looksTyped_iff, isTyped_iff, isTyped_iff]
  exact exists_congr fun t => and_congr_right fun ht => by rw [hname t ht]

/-! ### Reading -/

/-- The value of the attribute that stands first. -/
theorem attribute?_beforeName {v : List Char} (hv : '"' ∉ v) (r : List Char) :
    attribute? ['n', 'a', 'm', 'e'] (beforeName ++ (v ++ '"' :: r)) = some v := by
  have hspace : Word.isWord ' ' = false := rfl
  have htake : (v ++ '"' :: r).takeWhile (fun c => c != '"') = v := by
    rw [List.takeWhile_append_of_pos fun c hc => by simpa using fun h : c = '"' => hv (h ▸ hc)]
    simp
  have hequals : afterEquals ('=' :: '"' :: (v ++ '"' :: r)) = some ('"' :: (v ++ '"' :: r)) :=
    rfl
  have hquoted : quoted? ('"' :: (v ++ '"' :: r)) = some v := by
    simp [quoted?, show Blank.isBlank '"' = false by decide, htake]
  simp [attribute?, beforeName, attributeFrom, List.isPrefixOf, hspace, hequals, hquoted]

/-- What is read of the attributes of an element. -/
theorem name?_attributes (name : String) :
    name? (attributes name.toList) =
      if isDesignerName name.toList || decide (LooksTyped name.toList) then none
      else some name := by
  have hquot : '"' ∉ escape name.toList := fun h => not_mem_escape _ _ h (by decide)
  rw [name?, isTyped_attributes, attributes, attribute?_beforeName hquot]
  simp only [Option.bind_some, decode_escape, String.ofList_toList]
  by_cases htyped : LooksTyped name.toList <;> simp [htyped]

theorem elementsFrom_some (acc : List Char) {s : List Char} (hs : '>' ∉ s) (t : List Char) :
    elementsFrom (some acc) (s ++ '>' :: t) = (acc.reverse ++ s) :: elementsFrom none t := by
  induction s generalizing acc with
  | nil => simp [elementsFrom]
  | cons c s ih =>
    rw [List.mem_cons, not_or] at hs
    rw [List.cons_append, elementsFrom, if_neg (by simpa using Ne.symm hs.1), ih _ hs.2]
    simp

theorem not_mem_attributes (name : List Char) : '>' ∉ attributes name := by
  have hbefore : '>' ∉ beforeName := by decide
  have hafter : '>' ∉ '"' :: afterName := by decide
  have hname : '>' ∉ escape name := fun h => not_mem_escape _ _ h (by decide)
  simp [attributes, hbefore, hname, hafter]

/-- The names in an element up to its first bracket that closes. -/
theorem names_opening (name : List Char) :
    names (opening name) = (name? (attributes name)).toList := by
  have hspace : Word.isWord ' ' = false := rfl
  have hbegins : startsElement (elementName ++ attributes name ++ ['>']) = true :=
    startsElement_iff.2
      ⟨_, List.append_assoc .., by simp [attributes, beforeName, endsWord, hspace]⟩
  have hclose : '>' ∉ elementName ++ attributes name := by
    simp [elementName, not_mem_attributes]
  have helements : elementsFrom none (opening name) = [elementName ++ attributes name] := by
    rw [opening, List.cons_append, elementsFrom, hbegins, if_pos (by rfl),
      elementsFrom_some [] hclose]
    rfl
  rw [names, elements, helements, List.map_singleton, List.drop_left, List.filterMap_cons]
  cases name? (attributes name) <;> rfl

/-- An element shows no names after its first bracket that closes. -/
theorem names_content (value : List Char) : names (content value) = [] := by
  have hopens : ∀ a b, escape value ≠ a ++ '<' :: b := fun a b h =>
    not_mem_escape value '<' (by simp [h]) (by simp)
  have hvalue : names (escape value) = [] := by
    rw [names, elements, elementsFrom_eq_nil fun a b h => absurd h (hopens a b)]
    rfl
  have hclosed : Closed (escape value) := fun a b h => absurd h (hopens a b)
  have hbefore : Closed beforeValue := closed_of_last rfl
  have hends : names beforeValue = [] ∧ names afterValue = [] := ⟨rfl, rfl⟩
  rw [content, names_append hbefore, names_append hclosed, hvalue, hends.1, hends.2]
  rfl

theorem closed_opening (name : List Char) : Closed (opening name) :=
  closed_of_last List.getLast?_concat

theorem closed_element (name value : List Char) : Closed (opening name ++ content value) := by
  have hlast : afterValue.getLast? = some '>' := rfl
  refine closed_of_last ?_
  rw [content, List.getLast?_append, List.getLast?_append, List.getLast?_append, hlast]
  rfl

/-- **Which names are read again.** Of the names that are written, one after the other, those come
back, in their order, that are neither empty nor of a form designer, except for those that look
typed. -/
theorem names_document (entries : List (String × String)) :
    names (document entries) = (entries.map Prod.fst).filter fun name =>
      !isDesignerName name.toList && !decide (LooksTyped name.toList) := by
  induction entries with
  | nil => rfl
  | cons e entries ih =>
    rw [document, List.flatMap_cons, names_append (closed_element e.1.toList e.2.toList),
      ← document, ih, names_append (closed_opening _), names_opening, names_content,
      name?_attributes, List.map_cons, List.filter_cons, ← Bool.not_or]
    cases isDesignerName e.1.toList || decide (LooksTyped e.1.toList) <;> rfl

example : String.ofList (document [("Tom & \"Jerry\"", "<x>")]) =
      "<data name=\"Tom &amp; &quot;Jerry&quot;\" xml:space=\"preserve\">" ++
        "<value>&lt;x&gt;</value></data>" ∧
    names (document [("Tom & \"Jerry\"", "<x>")]) = ["Tom & \"Jerry\""] :=
  ⟨rfl, rfl⟩

/-- **A name that looks typed is lost**, although it is not empty and of no form designer. -/
theorem names_content_type :
    isDesignerName "content type=x".toList = false ∧ LooksTyped "content type=x".toList ∧
      names (document [("content type=x", "")]) = [] :=
  ⟨rfl, by decide, rfl⟩

end Markup

end KeyTrace
