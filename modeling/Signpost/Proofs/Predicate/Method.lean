import Mathlib
import Signpost.Predicate.Fields
import Signpost.Proofs.Component.Binding
import Signpost.Proofs.Failure
import Signpost.Proofs.Text.Blank
import Signpost.Proofs.Text.Case

/-
  Any list of methods makes a predicate.  The methods of the
  list are put into upper case, but that of a request is
  not, so a request matches in upper case only.

  Main declarations:
    * `ListedMethod`
    * `ListedMethod.list_joined`
    * `Http.isMethod_toUpper`
    * `exists_methodPredicate`
    * `methods_iff`
-/

namespace Signpost

open Http
open Text

------------------------------------------------------------
-- Characters of Methods
------------------------------------------------------------

namespace Http

/- A character of a method in a list and in upper case. -/
structure MethodChar (c : Char) : Prop where
  upper : isMethodChar c.toUpper = true
  filled : isBlank c = false
  not_comma : c ≠ ','

theorem methodChar_of_isMethodChar
    {c : Char}
    (hMethod : isMethodChar c = true) :
    MethodChar c := by
  have hAll :
      ∀ c : Char, c.toNat < 0x80 →
        isMethodChar c = true →
          isMethodChar c.toUpper = true ∧
            isBlank c = false ∧ c ≠ ',' :=
    forall_ascii (by decide +kernel)
  have hAscii : c.toNat < 0x80 :=
    toNat_lt_of_isAlphanum_or_mark (by decide) hMethod
  rcases hAll c hAscii hMethod with ⟨hUpper, hFilled, hComma⟩
  exact ⟨hUpper, hFilled, hComma⟩

theorem isMethod_iff
    {s : String} :
    isMethod s = true ↔
      s ≠ "" ∧ ∀ c ∈ s.toList, isMethodChar c = true := by
  simp [isMethod]

/- A method in upper case is a method. -/
theorem isMethod_toUpper
    {s : String}
    (hMethod : isMethod s = true) :
    isMethod s.toUpper = true := by
  rw [isMethod_iff] at hMethod ⊢
  rcases hMethod with ⟨hSome, hChars⟩
  constructor
  · intro hNone
    apply hSome
    have hLists := congrArg String.toList hNone
    simpa [String.toUpper, String.toList_map] using hLists
  · intro c hc
    rw [String.toUpper, String.toList_map, List.mem_map] at hc
    rcases hc with ⟨d, hd, rfl⟩
    exact (methodChar_of_isMethodChar (hChars d hd)).upper

end Http

------------------------------------------------------------
-- Lists of Methods
------------------------------------------------------------

/- A method in a list, with white space around it. -/
structure ListedMethod where
  before : List Char := []
  method : Method
  after : List Char := []
  before_blank : ∀ c ∈ before, isBlank c = true
  after_blank : ∀ c ∈ after, isBlank c = true

namespace ListedMethod

/- What is written for a method in a list. -/
def text (i : ListedMethod) : String :=
  String.ofList
    (i.before ++ (i.method.name.toList ++ i.after))

theorem methodChar
    (i : ListedMethod) :
    ∀ c ∈ i.method.name.toList, MethodChar c :=
  fun c hc =>
    methodChar_of_isMethodChar
      ((isMethod_iff.mp i.method.valid).2 c hc)

theorem trimmed_text
    (i : ListedMethod) :
    trimmed i.text = i.method.name := by
  have hFilled :
      ∀ c ∈ i.method.name.toList, isBlank c = false :=
    fun c hc => (i.methodChar c hc).filled
  rw [trimmed, text, String.toList_ofList,
    trim_around_of_forall i.before_blank i.after_blank hFilled,
    String.ofList_toList]

theorem comma_not_mem
    (i : ListedMethod) :
    ',' ∉ i.text.toList := by
  intro hMember
  rw [text, String.toList_ofList, List.mem_append,
    List.mem_append] at hMember
  rcases hMember with hBefore | hName | hAfter
  · exact absurd (i.before_blank _ hBefore) (by decide)
  · exact (i.methodChar _ hName).not_comma rfl
  · exact absurd (i.after_blank _ hAfter) (by decide)

variable {items : List ListedMethod}
variable {a : Arguments}
variable {key : String}

/- The items of a list are the methods as they are written. -/
theorem list_joined
    (hSome : items ≠ [])
    (hKey : a.get? key = some (joined "," (items.map text))) :
    a.list key = .ok (items.map fun i => i.method.name) := by
  have hComma : ∀ v ∈ items.map text, ',' ∉ v.toList := by
    intro v hv
    rcases List.mem_map.mp hv with ⟨i, -, rfl⟩
    exact i.comma_not_mem
  have hNames :
      (items.map text).map trimmed =
        items.map fun i => i.method.name := by
    rw [List.map_map]
    exact List.map_congr_left fun i _ => i.trimmed_text
  have hFilled :
      (items.map fun i => i.method.name).filter
          (fun v => !v.isEmpty) =
        items.map fun i => i.method.name := by
    apply List.filter_eq_self.mpr
    intro v hv
    rcases List.mem_map.mp hv with ⟨i, -, rfl⟩
    simpa using (isMethod_iff.mp i.method.valid).1
  have hItems :
      Arguments.items (joined "," (items.map text)) =
        items.map fun i => i.method.name := by
    rw [Arguments.items_joined_eq (by simpa using hSome) hComma,
      hNames, hFilled]
  rw [← hItems]
  apply Arguments.list_of_items hKey
  rw [hItems]
  simpa using hSome

end ListedMethod

------------------------------------------------------------
-- Requests
------------------------------------------------------------

variable {items : List ListedMethod}
variable {a : Arguments}

/- A method is put into upper case and is one then. -/
theorem upperMethod_eq_ok_iff
    {m upper : Method} :
    upperMethod m.name = .ok upper ↔
      upper.name = m.name.toUpper := by
  rcases upper with ⟨name, valid⟩
  have hUpper := isMethod_toUpper m.valid
  simp only [upperMethod, Method.parse?, dif_pos hUpper,
    Except.ok.injEq, Method.mk.injEq]
  exact eq_comm

/- A list makes a predicate for its methods in upper case. -/
theorem exists_methodPredicate
    (hSome : items ≠ [])
    (hMethods :
      a.get? "methods" =
        some (joined "," (items.map ListedMethod.text))) :
    ∃ p,
      methodFactory.make a = .ok p ∧
        ∀ x, ∃ b,
          p.evaluate x = .now b ∧
            (b = true ↔
              ∃ i ∈ items,
                x.method.name = i.method.name.toUpper) := by
  have hList := ListedMethod.list_joined hSome hMethods
  have hEach :
      ∀ name ∈ items.map (fun i => i.method.name),
        ∃ m, upperMethod name = .ok m := by
    intro name hName
    rcases List.mem_map.mp hName with ⟨i, -, rfl⟩
    exact
      ⟨⟨i.method.name.toUpper, isMethod_toUpper i.method.valid⟩,
        upperMethod_eq_ok_iff.mpr rfl⟩
  rcases exists_mapM_iff.mpr hEach with ⟨ms, hRead⟩
  refine
    ⟨.immediate "Method" fun x => ms.contains x.method, ?_, ?_⟩
  · simp only [methodFactory, hList, hRead, Bind.bind,
      Except.bind]
    rfl
  · intro x
    refine ⟨ms.contains x.method, rfl, ?_⟩
    have hMember :=
      exists_mem_mapM_iff hRead fun m => m = x.method
    simp only [exists_eq_right] at hMember
    rw [List.contains_iff_mem, hMember]
    constructor
    · intro hListed
      rcases hListed with ⟨name, hName, hUpper⟩
      rcases List.mem_map.mp hName with ⟨i, hi, rfl⟩
      exact ⟨i, hi, upperMethod_eq_ok_iff.mp hUpper⟩
    · intro hListed
      rcases hListed with ⟨i, hi, hUpper⟩
      exact
        ⟨_, List.mem_map_of_mem hi,
          upperMethod_eq_ok_iff.mpr hUpper⟩

/-
  A list of methods in any letter case, with white space
  around them, makes a predicate that never fails.  It holds
  of a request if its method is one of the list up to letter
  case and has no letter in lower case itself: the list is
  put into upper case, the method of a request is not.
-/
theorem methods_iff
    (hSome : items ≠ [])
    (hMethods :
      a.get? "methods" =
        some (joined "," (items.map ListedMethod.text))) :
    ∃ p,
      methodFactory.make a = .ok p ∧
        ∀ x, ∃ b,
          p.evaluate x = .now b ∧
            (b = true ↔
              (∀ c ∈ x.method.name.toList, c.isLower = false) ∧
                ∃ i ∈ items,
                  x.method.name.toLower =
                    i.method.name.toLower) := by
  rcases exists_methodPredicate hSome hMethods with
    ⟨p, hMake, hTest⟩
  refine ⟨p, hMake, ?_⟩
  intro x
  rcases hTest x with ⟨b, hNow, hHolds⟩
  refine ⟨b, hNow, ?_⟩
  rw [hHolds]
  simp only [eq_toUpper_iff]
  constructor
  · intro hListed
    rcases hListed with ⟨i, hi, hUpper, hSame⟩
    exact ⟨hUpper, i, hi, hSame⟩
  · intro hListed
    rcases hListed with ⟨hUpper, i, hi, hSame⟩
    exact ⟨i, hi, hUpper, hSame⟩

/- A method that is not in upper case. -/
def lowerPurge : Method := ⟨"purge", by decide⟩

/- A method between white space, and one that is not. -/
def mixedList : List ListedMethod :=
  [{ before := [' ']
     method := ⟨"Get", by decide⟩
     after := ['\t']
     before_blank := List.forall_mem_singleton.mpr (by decide)
     after_blank := List.forall_mem_singleton.mpr (by decide) },
    { method := lowerPurge
      before_blank := List.forall_mem_nil _
      after_blank := List.forall_mem_nil _ }]

/- The arguments that list them. -/
def mixedArguments : Arguments :=
  .ofList [("methods", " Get\t,purge")]

theorem get?_mixedArguments :
    mixedArguments.get? "methods" =
      some (joined "," (mixedList.map ListedMethod.text)) := by
  decide

/- A request in upper case matches in whatever letter case. -/
theorem methods_iff_mixed :
    ∃ p,
      methodFactory.make mixedArguments = .ok p ∧
        p.evaluate { method := .get } = .now true := by
  rcases methods_iff (List.cons_ne_nil _ _) get?_mixedArguments
    with ⟨p, hMake, hTest⟩
  refine ⟨p, hMake, ?_⟩
  rcases hTest { method := .get } with ⟨b, hNow, hHolds⟩
  have hUpper :
      ∀ c ∈ Method.get.name.toList, c.isLower = false := by
    simp [Method.get]
  have hSame : Method.get.name.toLower = "Get".toLower := by
    cbv
  have hb : b = true :=
    hHolds.mpr ⟨hUpper, _, List.mem_cons_self, hSame⟩
  rw [hNow, hb]

/- A request does not match the method that is its own. -/
theorem methods_lower_case :
    ∃ p,
      methodFactory.make mixedArguments = .ok p ∧
        (∃ i ∈ mixedList, i.method = lowerPurge) ∧
        p.evaluate { method := lowerPurge } = .now false := by
  rcases exists_methodPredicate (List.cons_ne_nil _ _)
      get?_mixedArguments with
    ⟨p, hMake, hTest⟩
  have hListed : ∃ i ∈ mixedList, i.method = lowerPurge :=
    ⟨_, List.mem_cons_of_mem _ List.mem_cons_self, rfl⟩
  refine ⟨p, hMake, hListed, ?_⟩
  rcases hTest { method := lowerPurge } with ⟨b, hNow, hHolds⟩
  have hb : b = false := by
    apply Bool.eq_false_iff.mpr
    intro hTrue
    rcases hHolds.mp hTrue with ⟨i, -, hUpper⟩
    have hLower := (eq_toUpper_iff.mp hUpper).1 'p' (by decide)
    exact absurd hLower (by decide)
  rw [hNow, hb]

end Signpost
