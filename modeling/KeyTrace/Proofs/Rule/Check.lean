import KeyTrace.Proofs.Attempts
import KeyTrace.Proofs.Rule.Comment
import KeyTrace.Proofs.Rule.Places
import KeyTrace.Settings

/-!
# The check of templates

Templates are checked before a scan: with stand-ins for the container and the key, with case minded,
and with a limit of its own for the size. The scan compiles them with the real texts, as the rule
minds case and with the limit of the settings.

Whether a template is malformed does not hang on case or on a limit, so that the two agree on it for
the stand-ins, and differ in sizes only. For other texts, what is reported as malformed never
compiles where the places of the template stand between items. Within brackets it may: the range
from `a` to a key is a range for some keys.

## Main results

* `RuleSet.mem_check_iff`: what is reported.
* `RuleSet.check_agrees_but_for_size`: the check against the scan, for the stand-ins.
* `RuleSet.compile_of_reported`: what can never match, for other texts.
-/

namespace KeyTrace

/-! ### What is refused -/

namespace Pattern

variable {ignoreCase ignoreCase' : Bool} {limit limit' : Nat} {source : List Char} {p : Pattern}

theorem compile_eq_malformed_iff :
    compile ignoreCase limit source = .error .malformed ↔ readNode ignoreCase source = none := by
  unfold compile
  split
  · rename_i hread
    simp [hread]
  · rename_i hread
    rw [hread]
    split
    · exact ⟨nofun, nofun⟩
    · exact ⟨nofun, nofun⟩

/-- Texts are malformed whether case is minded or not, and whatever the limit. -/
theorem compile_eq_malformed_of (h : compile ignoreCase limit source = .error .malformed) :
    compile ignoreCase' limit' source = .error .malformed := by
  rw [compile_eq_malformed_iff] at h ⊢
  by_contra hread
  have hsome := isSome_readNode ignoreCase' ignoreCase source (Option.ne_none_iff_isSome.1 hread)
  rw [h] at hsome
  cases hsome

/-- What is not malformed is refused for its size only. -/
theorem eq_tooBig_of_compile {cause : PatternError}
    (h : compile ignoreCase limit source = .error cause)
    (hformed : compile ignoreCase' limit' source ≠ .error .malformed) : cause = .tooBig limit := by
  cases cause with
  | malformed => exact absurd (compile_eq_malformed_of h) hformed
  | tooBig n =>
    unfold compile at h
    split at h
    · cases h
    · split at h
      · exact (Except.error.inj h).symm
      · cases h

/-- What is too large for one limit is too large for all that are no greater. -/
theorem compile_tooBig_of_le (h : compile ignoreCase limit source = .error (.tooBig limit))
    (hlimit : limit' ≤ limit) : compile ignoreCase limit' source = .error (.tooBig limit') := by
  unfold compile at h ⊢
  split at h
  · cases h
  · split at h
    · rename_i hlarge
      rw [if_pos]
      rw [Bool.and_eq_true, decide_eq_true_eq] at hlarge ⊢
      exact ⟨Nat.lt_of_le_of_lt hlimit hlarge.1, hlarge.2⟩
    · cases h

/-- What is not malformed compiles if the limit is great enough. -/
theorem exists_compile_of_tooBig (h : compile ignoreCase limit source = .error (.tooBig limit))
    (ignoreCase' : Bool) :
    ∃ least, ∀ limit', least ≤ limit' → ∃ p, compile ignoreCase' limit' source = .ok p := by
  have hread : readNode ignoreCase' source ≠ none := by
    intro hnone
    have hmalformed : compile ignoreCase' limit source = .error .malformed :=
      compile_eq_malformed_iff.2 hnone
    rw [compile_eq_malformed_of hmalformed] at h
    cases h
  obtain ⟨⟨node, groups⟩, hnode⟩ := Option.ne_none_iff_exists'.1 hread
  exact ⟨node.size, fun _ hsize => ⟨_, compile_of_size_le hnode hsize⟩⟩

end Pattern

namespace LineMatcher

variable {r : Rule} {template container key : String} {limit : Nat}

/-- A rule with a template is refused just if the template is once it is filled in. -/
theorem compile_eq_error_iff (hr : r.pattern = some template) {f : Failure} :
    compile r container key limit = .error f ↔
      ∃ cause, Pattern.compile (!r.caseSensitive) limit
          (Template.expand template container key).toList = .error cause ∧
        f = .template template cause := by
  rw [compile, hr]
  dsimp only
  split
  · rename_i cause hcause
    rw [hcause]
    constructor
    · intro h
      exact ⟨cause, rfl, (Except.error.inj h).symm⟩
    · rintro ⟨_, ⟨⟩, rfl⟩
      rfl
  · rename_i p hp
    rw [hp]
    constructor
    · intro h
      cases h
    · rintro ⟨cause, h, -⟩
      cases h

end LineMatcher

namespace RuleSet

variable {rs : RuleSet} {id : Nat} {r : Rule} {template : String} {f : Failure}

/-- What is reported: the templates that are refused with the stand-ins, with case minded. -/
theorem mem_check_iff (hr : rs.rule? id = some r) :
    (id, f) ∈ rs.check ↔ ∃ template cause, r.pattern = some template ∧
      Pattern.compile false checkLimit (Template.expand template "File" "Key").toList =
        .error cause ∧ f = .template template cause := by
  have hzip : ∀ r' : Rule, (r', id) ∈ rs.rules.zipIdx ↔ r' = r := by
    intro r'
    rw [List.mk_mem_zipIdx_iff_getElem?]
    exact ⟨fun h => Option.some.inj (h.symm.trans hr), fun h => h ▸ hr⟩
  rw [check, List.mem_filterMap]
  constructor
  · rintro ⟨⟨r', id'⟩, hmem, h⟩
    obtain ⟨template, htemplate, h⟩ := Option.bind_eq_some_iff.1 h
    split at h
    · cases h
    · rename_i cause hcause
      obtain ⟨rfl, rfl⟩ := Prod.mk.inj (Option.some.inj h)
      obtain rfl := (hzip r').1 hmem
      exact ⟨template, cause, htemplate, hcause, rfl⟩
  · rintro ⟨template, cause, htemplate, hcause, rfl⟩
    refine ⟨(r, id), (hzip r).2 rfl, ?_⟩
    change r.pattern.bind _ = _
    rw [htemplate, Option.bind_some, hcause]

/-- What is reported of a rule with a template. -/
theorem mem_check_iff_of_pattern (hr : rs.rule? id = some r) (hpattern : r.pattern = some template) :
    (id, f) ∈ rs.check ↔
      ∃ cause, Pattern.compile false checkLimit (Template.expand template "File" "Key").toList =
          .error cause ∧ f = .template template cause := by
  rw [mem_check_iff hr]
  constructor
  · rintro ⟨template', cause, htemplate, h⟩
    obtain rfl := Option.some.inj (htemplate.symm.trans hpattern)
    exact ⟨cause, h⟩
  · rintro ⟨cause, h⟩
    exact ⟨template, cause, hpattern, h⟩

end RuleSet

/-! ### The check and the scan -/

theorem Ascending.texts_ne_nil {s : List String} (h : s ≠ []) : texts s ≠ [] := by
  cases s with
  | nil => exact absurd rfl h
  | cons a rest =>
    rw [texts, ofList, List.foldr_cons]
    generalize rest.foldr (insert compareText) [] = l
    cases l with
    | nil => exact List.cons_ne_nil _ _
    | cons b l =>
      rw [insert]
      split <;> exact List.cons_ne_nil _ _

/-- The rules of settings that are not refused load. -/
theorem Settings.exists_ruleSet {s : Settings} (h : s.validate = .ok ()) :
    ∃ rs, s.ruleSet = .ok rs := by
  have hextensions : ∀ d ∈ s.rules, Extension.list d.extensions ≠ [] := by
    rw [validate] at h
    split at h
    · cases h
    · rename_i hnone
      intro d hd hempty
      have hfilled := List.findIdx?_eq_none_iff.1 hnone d hd
      rw [hempty] at hfilled
      cases hfilled
  have hload : ∀ d ∈ s.rules, Rule.load d = pure ⟨Ascending.texts (Extension.list d.extensions),
      d.caseSensitive, Rule.nonEmpty? d.pattern, Rule.nonEmpty? d.commentToken⟩ := by
    intro d hd
    rw [Rule.load]
    exact if_neg (by simpa using Ascending.texts_ne_nil (hextensions d hd))
  rw [ruleSet, RuleSet.load, mapM_eq_pure_map hload]
  exact ⟨_, rfl⟩

namespace RuleSet

/-- **The check agrees with the scan but for sizes.** The rules of settings that are not refused
load. A rule with a template is reported as malformed just if the scan refuses it as malformed, for
the stand-ins. What is reported and yet compiles for the scan was reported for its size; what is not
reported and yet refused is refused for its size. For a rule that minds case, the first takes a
limit of the scan that is greater than that of the check, and the second one that is smaller. -/
theorem check_agrees_but_for_size (s : Settings) (h : s.validate = .ok ()) :
    ∃ rs, s.ruleSet = .ok rs ∧
      ∀ id r template, rs.rule? id = some r → r.pattern = some template →
        ((id, .template template .malformed) ∈ rs.check ↔
          LineMatcher.compile r "File" "Key" s.scan.patternSizeLimit =
            .error (.template template .malformed)) ∧
        (∀ f m, (id, f) ∈ rs.check →
          LineMatcher.compile r "File" "Key" s.scan.patternSizeLimit = .ok m →
            f = .template template (.tooBig checkLimit) ∧
              (r.caseSensitive = true → checkLimit < s.scan.patternSizeLimit)) ∧
        ∀ f, LineMatcher.compile r "File" "Key" s.scan.patternSizeLimit = .error f →
          (∀ g, (id, g) ∉ rs.check) →
            f = .template template (.tooBig s.scan.patternSizeLimit) ∧
              (r.caseSensitive = true → s.scan.patternSizeLimit < checkLimit) := by
  obtain ⟨rs, hrs⟩ := Settings.exists_ruleSet h
  refine ⟨rs, hrs, fun id r template hr hpattern => ?_⟩
  have hcheck := fun f => mem_check_iff_of_pattern (f := f) hr hpattern
  have hscan : ∀ f, LineMatcher.compile r "File" "Key" s.scan.patternSizeLimit = .error f ↔
      ∃ cause, Pattern.compile (!r.caseSensitive) s.scan.patternSizeLimit
        (Template.expand template "File" "Key").toList = .error cause ∧
          f = .template template cause := fun f => LineMatcher.compile_eq_error_iff hpattern
  refine ⟨?_, ?_, ?_⟩
  · rw [hcheck, hscan]
    constructor
    · rintro ⟨cause, hcause, hf⟩
      obtain ⟨-, rfl⟩ := Failure.template.inj hf
      exact ⟨_, Pattern.compile_eq_malformed_of hcause, rfl⟩
    · rintro ⟨cause, hcause, hf⟩
      obtain ⟨-, rfl⟩ := Failure.template.inj hf
      exact ⟨_, Pattern.compile_eq_malformed_of hcause, rfl⟩
  · intro f m hf hm
    obtain ⟨cause, hcause, rfl⟩ := (hcheck f).1 hf
    obtain ⟨p, hp, -⟩ := (LineMatcher.compile_template_iff hpattern).1 hm
    have hformed : Pattern.compile (!r.caseSensitive) s.scan.patternSizeLimit
        (Template.expand template "File" "Key").toList ≠ .error .malformed := by
      intro h
      rw [hp] at h
      cases h
    obtain rfl := Pattern.eq_tooBig_of_compile hcause hformed
    refine ⟨rfl, fun hcase => ?_⟩
    by_contra hlimit
    rw [hcase, Bool.not_true, Pattern.compile_tooBig_of_le hcause (Nat.not_lt.1 hlimit)] at hp
    cases hp
  · intro f hf hnone
    obtain ⟨cause, hcause, rfl⟩ := (hscan f).1 hf
    have hpasses : ∀ cause', Pattern.compile false checkLimit
        (Template.expand template "File" "Key").toList ≠ .error cause' :=
      fun cause' hcause' => hnone _ ((hcheck _).2 ⟨cause', hcause', rfl⟩)
    obtain rfl := Pattern.eq_tooBig_of_compile hcause (hpasses .malformed)
    refine ⟨rfl, fun hcase => ?_⟩
    by_contra hlimit
    rw [hcase, Bool.not_true] at hcause
    exact hpasses _ (Pattern.compile_tooBig_of_le hcause (Nat.not_lt.1 hlimit))

/-- Settings that leave no room for a template. -/
def crampedSettings : Settings :=
  ⟨{ ScanSettings.standard with patternSizeLimit := 1 },
    [⟨".cs", true, some "\"($Key)\"", none⟩]⟩

/-- The rule of these settings, loaded. -/
def crampedRule : Rule := ⟨[".cs"], true, some "\"($Key)\"", none⟩

theorem ruleSet_crampedSettings : crampedSettings.ruleSet = .ok (ofRules [crampedRule]) := by
  have hrules : crampedSettings.rules.mapM Rule.load = .ok [crampedRule] := by decide +kernel
  rw [Settings.ruleSet, load, hrules]
  rfl

theorem compile_crampedRule :
    LineMatcher.compile crampedRule "File" "Key" crampedSettings.scan.patternSizeLimit =
      .error (.template "\"($Key)\"" (.tooBig 1)) := by
  refine (LineMatcher.compile_eq_error_iff rfl).2 ⟨.tooBig 1, ?_, rfl⟩
  have hread : Pattern.readNode false (Template.expand "\"($Key)\"" "File" "Key").toList =
      some (.cat (.literal ['"']) (.cat (.group 1 (.literal ['K', 'e', 'y'])) (.literal ['"'])), 1) := by
    decide +kernel
  exact Pattern.compile_of_lt_size hread (by decide +kernel) (by decide +kernel)

/-- What is refused for such settings, and not reported, is refused for its size. -/
theorem check_agrees_crampedSettings : crampedSettings.validate = .ok () ∧
    ∃ rs, crampedSettings.ruleSet = .ok rs ∧ ∀ r, rs.rule? 0 = some r →
      r.pattern = some "\"($Key)\"" → ∀ f,
        LineMatcher.compile r "File" "Key" 1 = .error f → (∀ g, (0, g) ∉ rs.check) →
          f = .template "\"($Key)\"" (.tooBig 1) := by
  have hvalid : crampedSettings.validate = .ok () := rfl
  obtain ⟨rs, hrs, hrules⟩ := check_agrees_but_for_size crampedSettings hvalid
  refine ⟨hvalid, rs, hrs, fun r hr hpattern f hf hnone => ?_⟩
  obtain ⟨-, -, hscan⟩ := hrules 0 r _ hr hpattern
  exact (hscan f hf hnone).1

/-- With little room, a rule that the scan refuses is not reported. -/
theorem check_crampedSettings : crampedSettings.validate = .ok () ∧
    ∃ rs r, crampedSettings.ruleSet = .ok rs ∧ rs.rule? 0 = some r ∧ rs.check = [] ∧
      LineMatcher.compile r "File" "Key" crampedSettings.scan.patternSizeLimit =
        .error (.template "\"($Key)\"" (.tooBig 1)) :=
  ⟨rfl, ofRules [crampedRule], crampedRule, ruleSet_crampedSettings, rfl, by decide +kernel,
    compile_crampedRule⟩

/-! ### What can never match -/

/-- **What is reported as malformed never matches**, whatever the container and the key, if the
places of the template stand apart and no text in them is empty; where nothing but the depth is
wrong with the stand-ins, the texts must not be of a single character either. What is reported for
its size compiles with the stand-ins once the limit is great enough, and for a rule that minds case
with no limit up to that of the check. -/
theorem compile_of_reported {rs : RuleSet} {id : Nat} {r : Rule} {f : Failure}
    (h : (id, f) ∈ rs.check) (hr : rs.rule? id = some r) :
    ∃ template, r.pattern = some template ∧
      ((f = .template template .malformed ∧ ∀ container key : String, Template.Apart template →
          (∀ p ∈ Template.places template, p.text container.toList key.toList ≠ []) →
          (Pattern.tooDeep (Template.expand template "File" "Key").toList = true →
            ∀ p ∈ Template.places template, 2 ≤ (p.text container.toList key.toList).length) →
          (∀ limit, LineMatcher.compile r container key limit = .error f) ∧
            ∀ line, (r.matchOnce container key line).1 = none) ∨
        (f = .template template (.tooBig checkLimit) ∧
          (∃ least, ∀ limit, least ≤ limit → ∃ m, LineMatcher.compile r "File" "Key" limit = .ok m) ∧
          (r.caseSensitive = true → ∀ limit ≤ checkLimit,
            LineMatcher.compile r "File" "Key" limit =
              .error (.template template (.tooBig limit))))) := by
  obtain ⟨template, cause, hpattern, hcause, rfl⟩ := (mem_check_iff hr).1 h
  refine ⟨template, hpattern, ?_⟩
  cases cause with
  | malformed =>
    refine Or.inl ⟨rfl, fun container key hapart hfilled hdeep => ?_⟩
    have hstandIns := Pattern.compile_eq_malformed_iff.1 hcause
    have hfails : ∀ limit, LineMatcher.compile r container key limit =
        .error (.template template .malformed) := by
      refine fun limit => (LineMatcher.compile_eq_error_iff hpattern).2 ⟨.malformed, ?_, rfl⟩
      rw [Pattern.compile_eq_malformed_iff]
      by_contra hread
      have hsome := Template.isSome_readNode_expand hapart hfilled hdeep
        (Option.ne_none_iff_isSome.1 hread)
      rw [hstandIns] at hsome
      cases hsome
    refine ⟨hfails, fun line => ?_⟩
    rw [Rule.matchOnce, hfails]
  | tooBig limit =>
    have hformed : Pattern.compile false checkLimit
        (Template.expand template "File" "Key").toList ≠ .error .malformed := by
      intro h
      rw [hcause] at h
      cases h
    obtain rfl := PatternError.tooBig.inj (Pattern.eq_tooBig_of_compile hcause hformed)
    refine Or.inr ⟨rfl, ?_, fun hcase limit hlimit => ?_⟩
    · obtain ⟨least, hleast⟩ :=
        Pattern.exists_compile_of_tooBig hcause (!r.caseSensitive)
      refine ⟨least, fun limit hlimit => ?_⟩
      obtain ⟨p, hp⟩ := hleast limit hlimit
      exact ⟨_, (LineMatcher.compile_template_iff hpattern).2 ⟨p, hp, rfl⟩⟩
    · refine (LineMatcher.compile_eq_error_iff hpattern).2 ⟨.tooBig limit, ?_, rfl⟩
      rw [hcase, Bool.not_true]
      exact Pattern.compile_tooBig_of_le hcause hlimit

/-- A rule whose template leaves a group open. -/
def openRule : Rule := ⟨[".cs"], true, some "\"($File\\.$Key\"", none⟩

theorem compile_of_reported_openRule :
    (0, .template "\"($File\\.$Key\"" .malformed) ∈ (ofRules [openRule]).check ∧
      (ofRules [openRule]).rule? 0 = some openRule ∧ ∀ limit,
        LineMatcher.compile openRule "Strings" "K" limit =
          .error (.template "\"($File\\.$Key\"" .malformed) := by
  have hreported : (0, Failure.template "\"($File\\.$Key\"" .malformed) ∈
      (ofRules [openRule]).check := by decide +kernel
  obtain ⟨template, hpattern, ⟨-, hfails⟩ | ⟨hbig, -⟩⟩ := compile_of_reported hreported rfl
  · obtain rfl := Option.some.inj hpattern
    have hapart : Template.Apart "\"($File\\.$Key\"" :=
      Template.apartFrom_of_readsApart (by decide +kernel)
    exact ⟨hreported, rfl, (hfails "Strings" "K" hapart (by decide +kernel)
      fun hdeep => absurd hdeep (by decide +kernel)).1⟩
  · cases hbig

/-- A rule whose template has a range up to the key. -/
def rangeRule : Rule := ⟨[".cs"], true, some "[a-$Key]", none⟩

/-- Within brackets, what is reported can match. -/
theorem matchOnce_rangeRule :
    (ofRules [rangeRule]).check = [(0, .template "[a-$Key]" .malformed)] ∧
      (ofRules [rangeRule]).rule? 0 = some rangeRule ∧
      rangeRule.matchOnce "R" "z" "m" = (some ["", "m", ""], []) :=
  ⟨by decide +kernel, rfl, by decide +kernel⟩

end RuleSet

end KeyTrace
