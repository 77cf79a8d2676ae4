import KeyTrace.Pattern

/-!
# Templates

A template is a pattern with places for the name of a resource container, `$File`, and for a key,
`$Key`. Both are filled in as plain text in a single pass from left to right, so that nothing that
was filled in is ever taken for a place itself.

## Main definitions

* `Template.fill`: replaces the places by two given texts.
* `Template.expand`: fills in a container and a key as plain text.
-/

namespace KeyTrace

namespace Template

/-- Replaces each place by the text for containers or for keys. -/
def fill (container key : List Char) : List Char → List Char
  | [] => []
  | '$' :: 'F' :: 'i' :: 'l' :: 'e' :: rest => container ++ fill container key rest
  | '$' :: 'K' :: 'e' :: 'y' :: rest => key ++ fill container key rest
  | c :: rest => c :: fill container key rest

/-- The pattern for one container and key. -/
def expand (template container key : String) : String :=
  String.ofList
    (fill (Pattern.escape container.toList) (Pattern.escape key.toList) template.toList)

@[simp] theorem fill_nil (container key : List Char) : fill container key [] = [] := rfl

/-- Text without a dollar sign stays as it is. -/
theorem fill_plain (container key : List Char) {s : List Char} (h : '$' ∉ s) (rest : List Char) :
    fill container key (s ++ rest) = s ++ fill container key rest := by
  induction s with
  | nil => rfl
  | cons c s ih =>
    have hc : c ≠ '$' := fun heq => h (heq ▸ List.mem_cons_self ..)
    rw [List.cons_append, fill, ih fun hmem => h (List.mem_cons_of_mem c hmem), List.cons_append]
    · rintro _ rfl
      exact absurd rfl hc
    · rintro _ rfl
      exact absurd rfl hc

end Template

end KeyTrace
