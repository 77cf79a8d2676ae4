import KeyTrace.Proofs.Pattern.Reading
import KeyTrace.Proofs.Rule.Reference
import KeyTrace.Proofs.Text.Token

/-!
# The built-in rules find no more than tokens do

The built-in rules that mind case all frame the key: a dot, a colon or a quotation mark stands
before it, and a quotation mark or a character that is no word character after it. None of these is
in a token, so wherever such a rule matches, the tokens of the key are tokens of the line, whatever
the key is made of. Looking at lines with the probe only therefore loses nothing.

## Main definitions

* `RuleSet.sensitive`: the extensions that only rules which mind case cover.

## Main results

* `LineMatcher.exists_word_of_apply`: a template that matches has one of its words in the line.
* `RuleSet.apart_of_matchRule`: a built-in rule that matches has the key stand apart in the line.
* `RuleSet.mentions_of_firstMatch`: such a line has the probe of the key.
-/

namespace KeyTrace

/-- A template that matches has one of its words in the line, with a space on either side. -/
theorem LineMatcher.exists_word_of_apply {r : Rule} {template container key line : String}
    {limit : Nat} {m : LineMatcher} {segments : Segments} (ht : r.pattern = some template)
    (hm : compile r container key limit = .ok m) (h : m.apply line = some segments) :
    ∃ node groups, Pattern.readNode (!r.caseSensitive)
        (Template.expand template container key).toList = some (node, groups) ∧
      ∃ w ∈ node.language, w <:+: ' ' :: line.toList ++ [' '] := by
  rcases exists_of_compile hm with ⟨_, _, _, hnone, -⟩ | ⟨t, p, node, groups, ht', hs, hread, hp⟩
  · rw [ht] at hnone
    cases hnone
  · obtain rfl : template = t := Option.some.inj (ht.symm.trans ht')
    rw [apply, hs] at h
    have hfind : (p.find? (' ' :: line.toList ++ [' '])).isSome = true := by
      dsimp only at h
      rw [applyTemplate] at h
      cases hf : p.find? (' ' :: line.toList ++ [' ']) with
      | none => rw [hf] at h; cases h
      | some _ => rfl
    obtain ⟨start, y, hy⟩ := Pattern.match_of_find? hp hfind
    obtain ⟨w, hw, hprefix, -⟩ := Node.exists_word_of_match hy
    exact ⟨node, groups, hread, w, hw, hprefix.isInfix.trans (List.drop_suffix ..).isInfix⟩

theorem CharClass.isAsciiWord_of_nonWord {c : Char} (h : CharClass.nonWord.mem c = true) :
    Word.isAsciiWord c = false := by
  have hcodes : ∀ n < 0x80, CharClass.nonWord.hasCode n = true →
      Word.isAsciiWord (Char.ofNat n) = false := by decide +kernel
  by_contra hword
  rw [Bool.not_eq_false] at hword
  have hfalse := hcodes c.toNat (Word.toNat_of_isAsciiWord hword) h
  rw [Char.ofNat_toNat, hword] at hfalse
  cases hfalse

theorem isAsciiWord_quote : Word.isAsciiWord '"' = false := rfl

namespace Template

open Pattern

variable (container key : String)

theorem escape_append (s t : List Char) : escape (s ++ t) = escape s ++ escape t :=
  List.flatMap_append

/-- A piece of a template: text as it is, or a place. -/
inductive Part where
  | text (s : List Char)
  | file
  | key

/-- How a piece is written. -/
def Part.source : Part → List Char
  | .text s => s
  | .file => ['$', 'F', 'i', 'l', 'e']
  | .key => ['$', 'K', 'e', 'y']

/-- What becomes of a piece. -/
def Part.filled (forFile forKey : List Char) : Part → List Char
  | .text s => s
  | .file => forFile
  | .key => forKey

/-- Whether a piece is a place, or text without a dollar sign. -/
def Part.isPlain : Part → Bool
  | .text s => !s.contains '$'
  | _ => true

/-- Filling in a template piece by piece. -/
theorem fill_parts (container key : List Char) {parts : List Part}
    (h : ∀ p ∈ parts, p.isPlain = true) :
    fill container key (parts.flatMap Part.source) = parts.flatMap (Part.filled container key) := by
  induction parts with
  | nil => rfl
  | cons p parts ih =>
    have hp := h p (List.mem_cons_self ..)
    rw [List.flatMap_cons, List.flatMap_cons, ← ih fun q hq => h q (List.mem_cons_of_mem p hq)]
    cases p with
    | text s =>
      have hs : '$' ∉ s := by simpa [Part.isPlain] using hp
      exact fill_plain container key hs _
    | file => rfl
    | key => rfl

/-- The pattern that a template yields, piece by piece. -/
theorem toList_expand {template : String} {parts : List Part}
    (hparts : template.toList = parts.flatMap Part.source) (h : ∀ p ∈ parts, p.isPlain = true) :
    (expand template container key).toList =
      parts.flatMap (Part.filled (escape container.toList) (escape key.toList)) := by
  rw [expand, String.toList_ofList, hparts, fill_parts _ _ h]

/-! ### Qualified names -/

/-- The pattern of a container and a key with a separator between them, in a group between two signs
for other than word characters. -/
def qualified (separator : List Char) : List Char :=
  ['\\', 'W'] ++ ('(' :: (escape (container.toList ++ (separator ++ key.toList)) ++ [')']) ++
    ['\\', 'W'])

theorem expand_dotted : (expand "\\W($File\\.$Key)\\W" container key).toList =
    qualified container key ['.'] := by
  have hparts : "\\W($File\\.$Key)\\W".toList =
      [Part.text ['\\', 'W', '('], .file, .text ['\\', '.'], .key,
        .text [')', '\\', 'W']].flatMap Part.source := rfl
  rw [toList_expand container key hparts (by decide), qualified, escape_append, escape_append]
  simp [Part.filled, escape, escapeChar, isMeta]

theorem expand_scoped : (expand "\\W($File::$Key)\\W" container key).toList =
    qualified container key [':', ':'] := by
  have hparts : "\\W($File::$Key)\\W".toList =
      [Part.text ['\\', 'W', '('], .file, .text [':', ':'], .key,
        .text [')', '\\', 'W']].flatMap Part.source := rfl
  rw [toList_expand container key hparts (by decide), qualified, escape_append, escape_append]
  simp [Part.filled, escape, escapeChar, isMeta]

variable {container key} {node : Node} {groups : Nat} {w : List Char}

/-- The last character of the separator and the one after the key are in no token. -/
theorem apart_of_qualified {s : List Char} {c : Char} (hc : Word.isAsciiWord c = false)
    (h : readNode false (qualified container key (s ++ [c])) = some (node, groups))
    (hw : w ∈ node.language) : Token.Apart key.toList w := by
  have hne : container.toList ++ (s ++ [c] ++ key.toList) ≠ [] := by simp
  rw [language_of_spells (Spells.nonWord.append ((Spells.group hne).append .nonWord)) h] at hw
  obtain ⟨u, -, v, ⟨_, rfl, _, ⟨d, hd, rfl⟩, rfl⟩, rfl⟩ := hw
  exact ⟨u ++ container.toList ++ s, c, d, [], by simp, hc,
    CharClass.isAsciiWord_of_nonWord hd⟩

/-! ### Quoted keys -/

/-- The pattern of a key between quotation marks. -/
def quoted (key : String) : List Char :=
  escape ['"'] ++ ('(' :: (escape key.toList ++ [')']) ++ escape ['"'])

theorem escape_quote : escape ['"'] = ['"'] := rfl

theorem spells_quoted (hkey : key.toList ≠ []) :
    Spells (quoted key) ({['"']} * ({key.toList} * {['"']})) :=
  (Spells.escape ['"']).append ((Spells.group hkey).append (.escape ['"']))

/-- The words of a quoted key have the key between quotation marks. -/
theorem apart_of_quoted {L M : Language Char}
    (h : w ∈ L * (({['"']} * ({key.toList} * {['"']})) * M)) : Token.Apart key.toList w := by
  obtain ⟨u, -, _, ⟨_, ⟨_, rfl, _, ⟨_, rfl, _, rfl, rfl⟩, rfl⟩, v, -, rfl⟩, rfl⟩ := h
  exact ⟨u, '"', '"', v, by simp, isAsciiWord_quote, isAsciiWord_quote⟩

theorem expand_getString :
    (expand "ResourceManager\\.GetString\\(\"($Key)\"" container key).toList =
      escape "ResourceManager.GetString(".toList ++ quoted key := by
  have hparts : "ResourceManager\\.GetString\\(\"($Key)\"".toList =
      [Part.text (escape "ResourceManager.GetString(".toList), .text ['"', '('], .key,
        .text [')', '"']].flatMap Part.source := rfl
  rw [toList_expand container key hparts (by decide), quoted, escape_quote]
  generalize escape "ResourceManager.GetString(".toList = s
  simp [Part.filled]

theorem apart_of_escape_quoted (hkey : key.toList ≠ [])
    {s : List Char} (h : readNode false (escape s ++ quoted key) = some (node, groups))
    (hw : w ∈ node.language) : Token.Apart key.toList w := by
  rw [language_of_spells ((Spells.escape s).append (spells_quoted hkey)) h,
    ← mul_one ({['"']} * _)] at hw
  exact apart_of_quoted hw

/-- The pattern of a type, or what is written like one. -/
def typed (container : String) : List Char :=
  ['t', 'y', 'p', 'e', 'o', 'f', '('] ++ (container.toList ++ [')'])

theorem escape_typed : escape (typed container) =
    ['t', 'y', 'p', 'e', 'o', 'f', '\\', '('] ++ (escape container.toList ++ ['\\', ')']) := by
  rw [typed, escape_append, escape_append]
  rfl

theorem expand_typeof :
    (expand "typeof\\($File\\).+\"($Key)\"|\"($Key)\".+typeof\\($File\\)" container key).toList =
      (escape (typed container) ++ ('.' :: '+' :: quoted key)) ++
        '|' :: (quoted key ++ ('.' :: '+' :: escape (typed container))) := by
  have hparts : "typeof\\($File\\).+\"($Key)\"|\"($Key)\".+typeof\\($File\\)".toList =
      [Part.text ['t', 'y', 'p', 'e', 'o', 'f', '\\', '('], .file,
        .text ['\\', ')', '.', '+', '"', '('], .key, .text [')', '"', '|', '"', '('], .key,
        .text [')', '"', '.', '+', 't', 'y', 'p', 'e', 'o', 'f', '\\', '('], .file,
        .text ['\\', ')']].flatMap Part.source := rfl
  rw [toList_expand container key hparts (by decide), escape_typed, quoted, escape_quote]
  simp [Part.filled]

theorem apart_of_typeof (hkey : key.toList ≠ [])
    (h : readNode false ((escape (typed container) ++ ('.' :: '+' :: quoted key)) ++
        '|' :: (quoted key ++ ('.' :: '+' :: escape (typed container)))) = some (node, groups))
    (hw : w ∈ node.language) : Token.Apart key.toList w := by
  have hleft := (Spells.escape (typed container)).append
    (Spells.dots (spells_quoted hkey) (by decide))
  have hright := (spells_quoted hkey).append (Spells.dots (.escape (typed container)) (by decide))
  rw [language_of_bar hleft hright h] at hw
  rcases hw with hw | hw
  · rw [← mul_assoc, ← mul_one ({['"']} * _)] at hw
    exact apart_of_quoted hw
  · rw [← one_mul (_ * _)] at hw
    exact apart_of_quoted hw

end Template

namespace RuleSet

variable {s : RuleSet} {limit : Nat} {e : Entry} {r : Rule} {line : String} {segments : Segments}

/-- The templates of the built-in rules that mind case. -/
theorem pattern_of_builtin : ∀ r ∈ builtin.rules, r.caseSensitive = true →
    r.pattern = some "\\W($File\\.$Key)\\W" ∨
      r.pattern = some "\\W($File::$Key)\\W" ∨
      r.pattern = some "ResourceManager\\.GetString\\(\"($Key)\"" ∨
      r.pattern = some "typeof\\($File\\).+\"($Key)\"|\"($Key)\".+typeof\\($File\\)" := by
  decide +kernel

/-- **A built-in rule that matches has the key stand apart in the line.** -/
theorem apart_of_matchRule (hr : r ∈ builtin.rules) (hcase : r.caseSensitive = true)
    (hkey : e.key.toList ≠ []) (h : matchRule limit e r line = some segments) :
    Token.Apart e.key.toList (' ' :: line.toList ++ [' ']) := by
  obtain ⟨m, hm, happly⟩ := exists_of_matchRule h
  have hword : ∀ template, r.pattern = some template → ∃ node groups,
      Pattern.readNode false (Template.expand template e.container e.key).toList =
        some (node, groups) ∧ ∃ w ∈ node.language, w <:+: ' ' :: line.toList ++ [' '] := by
    intro template ht
    have hexists := LineMatcher.exists_word_of_apply ht hm happly
    rwa [hcase] at hexists
  rcases pattern_of_builtin r hr hcase with ht | ht | ht | ht
  · obtain ⟨node, groups, hread, w, hw, hinfix⟩ := hword _ ht
    rw [Template.expand_dotted] at hread
    exact (Template.apart_of_qualified (s := []) rfl hread hw).mono hinfix
  · obtain ⟨node, groups, hread, w, hw, hinfix⟩ := hword _ ht
    rw [Template.expand_scoped] at hread
    exact (Template.apart_of_qualified (s := [':']) rfl hread hw).mono hinfix
  · obtain ⟨node, groups, hread, w, hw, hinfix⟩ := hword _ ht
    rw [Template.expand_getString] at hread
    exact (Template.apart_of_escape_quoted hkey hread hw).mono hinfix
  · obtain ⟨node, groups, hread, w, hw, hinfix⟩ := hword _ ht
    rw [Template.expand_typeof] at hread
    exact (Template.apart_of_typeof hkey hread hw).mono hinfix

/-- Where case is minded, a line with the tokens of a key has its probe. -/
theorem mentions_of_tokens_subset {extension key : String} {c : Char} (hc : c ∈ key.toList)
    (hword : Word.isAsciiWord c = true) (h : Token.tokens key.toList ⊆ Token.tokens line.toList) :
    s.mentions extension key line = true := by
  obtain ⟨p, hp⟩ := Token.exists_probe hc hword
  simp only [mentions, hp, List.any_eq_true]
  exact ⟨p, h (Token.probe_mem hp), by simp⟩

/-- The extensions that some rules cover, none of which ignores case. -/
def sensitive (s : RuleSet) : List String :=
  s.extensions.filter fun extension => !s.ignoresCase extension

theorem sensitive_builtin : builtin.sensitive =
    [".c", ".cpp", ".cs", ".cshtml", ".cxx", ".h", ".hpp", ".hxx", ".js", ".jsx", ".razor", ".ts",
      ".tsx", ".xaml"] := by
  decide +kernel

/-- **A line where a built-in rule matches has the probe of the key**, for extensions where all
rules mind case. -/
theorem mentions_of_firstMatch {extension : String} (hext : extension ∈ builtin.sensitive)
    {c : Char} (hc : c ∈ e.key.toList) (hword : Word.isAsciiWord c = true)
    (h : builtin.firstMatch limit e extension line = some segments) :
    builtin.mentions extension e.key line = true := by
  obtain ⟨r, hr, ha, hmatch⟩ := exists_of_firstMatch h
  have hignores : builtin.ignoresCase extension = false := by
    simpa using (List.mem_filter.1 hext).2
  have hcase : r.caseSensitive = true := by
    rw [ignoresCase, List.any_eq_false] at hignores
    simpa [ha] using hignores r hr
  have hsubset := (apart_of_matchRule hr hcase (List.ne_nil_of_mem hc) hmatch).tokens_subset
  rw [Token.tokens_padded] at hsubset
  exact mentions_of_tokens_subset hc hword hsubset

/-- The references to an entry in a file, when the rules are tried on every line. -/
def searchIn (s : RuleSet) (limit : Nat) (e : Entry) (f : SourceFile) (lines : List String) :
    List Reference :=
  lines.zipIdx.filterMap fun (line, i) =>
    (s.firstMatch limit e f.extension line).map fun segments => ⟨f, i + 1, segments⟩

/-- **The built-in rules find as much when they are tried on every line.** -/
theorem referencesIn_builtin {f : SourceFile} (hext : f.extension ∈ builtin.sensitive) {c : Char}
    (hc : c ∈ e.key.toList) (hword : Word.isAsciiWord c = true) (lines : List String) :
    builtin.referencesIn limit e f lines = builtin.searchIn limit e f lines := by
  rw [referencesIn, searchIn]
  refine List.filterMap_congr fun p _ => ?_
  dsimp only
  split
  · rfl
  · rename_i hnot
    cases hfirst : builtin.firstMatch limit e f.extension p.1 with
    | none => rfl
    | some segments => exact absurd (mentions_of_firstMatch hext hc hword hfirst) hnot

end RuleSet

end KeyTrace
