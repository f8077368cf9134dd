import Signpost.Exchange
import Signpost.Proofs.Text.Blank
import Signpost.Proofs.Text.Split

/-
  What is read out of the cookie fields of a request is what
  was written into them: the values under a name, in the order
  of the fields and, in each, in that of its items.

  Main declarations:
    * `Cookie` and `CookieItem`
    * `Exchange.cookie?_text` and `Exchange.cookie?_eq_none`
    * `Exchange.cookiesOf_text`
    * `Exchange.cookieValues_written`
-/

namespace Signpost

open Text
open Http

------------------------------------------------------------
-- Cookies
------------------------------------------------------------

/- A cookie, and whether quotes stand around its value. -/
structure Cookie where
  name : String
  value : String
  isQuoted : Bool
  name_trimmed : trimmed name = name
  name_plain : '=' ∉ name.toList ∧ ';' ∉ name.toList
  value_plain : ';' ∉ value.toList
  value_first : value.toList.head? ≠ some '"'
  value_last : value.toList.getLast? ≠ some '"'
  value_trimmed : isQuoted = false → trimmed value = value

namespace Cookie

/- The value as it is written. -/
def written (c : Cookie) : List Char :=
  if c.isQuoted then '"' :: (c.value.toList ++ ['"'])
  else c.value.toList

/- The cookie as it is written. -/
def text (c : Cookie) : List Char :=
  c.name.toList ++ '=' :: c.written

end Cookie

------------------------------------------------------------
-- Cookie Fields
------------------------------------------------------------

/- An item of a cookie field is a cookie, or is none. -/
inductive CookieItem
| cookie (c : Cookie)
| other (cs : List Char) (hPlain : '=' ∉ cs)

namespace CookieItem

def text : CookieItem → List Char
| cookie c => c.text
| other cs _ => cs

def cookie? : CookieItem → Option Cookie
| cookie c => some c
| other _ _ => none

end CookieItem

/- Spaces and tabs. -/
def Margin :=
  { cs : List Char // ∀ c ∈ cs, c = ' ' ∨ c = '\t' }

/- An item between spaces and tabs. -/
structure SpacedItem where
  before : Margin
  item : CookieItem
  after : Margin

/- What is written for an item and around it. -/
def SpacedItem.text (i : SpacedItem) : List Char :=
  i.before.val ++ (i.item.text ++ i.after.val)

/- A cookie field has items, unless it cannot be read. -/
inductive CookieField
| unreadable
| items (is : List SpacedItem)

namespace CookieField

/- The text of a field, semicolons between its items. -/
def text? : CookieField → Option String
| unreadable => none
| items is =>
    some (String.ofList
      ([';'].intercalate (is.map SpacedItem.text)))

/- The cookies that were written into a field. -/
def cookies : CookieField → List Cookie
| unreadable => []
| items is => is.filterMap fun i => i.item.cookie?

end CookieField

------------------------------------------------------------
-- Reading a Cookie
------------------------------------------------------------

namespace Margin

variable (m : Margin)

theorem isBlank_of_mem :
    ∀ c ∈ m.val, isBlank c = true := by
  intro c hc
  rcases m.property c hc with rfl | rfl
  · rfl
  · rfl

theorem semicolon_not_mem :
    ';' ∉ m.val := by
  intro hMember
  exact Bool.noConfusion (m.isBlank_of_mem ';' hMember)

theorem equals_not_mem :
    '=' ∉ m.val := by
  intro hMember
  exact Bool.noConfusion (m.isBlank_of_mem '=' hMember)

end Margin

namespace Cookie

variable (c : Cookie)

theorem trim_name :
    trim c.name.toList = c.name.toList := by
  have hTrimmed := congrArg String.toList c.name_trimmed
  rwa [trimmed, String.toList_ofList] at hTrimmed

/- The value is written without white space around it. -/
theorem trim_written :
    trim c.written = c.written := by
  unfold written
  cases hQuoted : c.isQuoted with
  | false =>
      have hTrimmed :=
        congrArg String.toList (c.value_trimmed hQuoted)
      rwa [trimmed, String.toList_ofList] at hTrimmed
  | true =>
      apply trim_eq_self
      · intro d hHead
        cases hHead
        rfl
      · intro d hEnd
        have hQuote : d = '"' := by
          simpa [List.getLast?_cons, eq_comm] using hEnd
        subst hQuote
        rfl

/- Its quotes are taken away, and no more than these. -/
theorem unquoted_written :
    Exchange.unquoted c.written = c.value.toList := by
  have hFirst :
      ∀ d, c.value.toList.head? = some d →
        decide (d = '"') = false := by
    intro d hHead
    refine decide_eq_false fun hd => c.value_first ?_
    rw [hHead, hd]
  have hLast :
      ∀ d, c.value.toList.getLast? = some d →
        decide (d = '"') = false := by
    intro d hEnd
    refine decide_eq_false fun hd => c.value_last ?_
    rw [hEnd, hd]
  unfold written
  cases c.isQuoted with
  | false =>
      have hAround :=
        @dropEnds_around [] c.value.toList [] (· = '"')
          (· = '"') (by simp) (by simp) hFirst hLast
      simpa [Exchange.unquoted] using hAround
  | true =>
      exact
        @dropEnds_around ['"'] c.value.toList ['"'] (· = '"')
          (· = '"') (by simp) (by simp) hFirst hLast

theorem semicolon_not_mem :
    ';' ∉ c.text := by
  have hWritten : ';' ∉ c.written := by
    unfold written
    split
    · simpa using c.value_plain
    · exact c.value_plain
  simpa [text, c.name_plain.2] using hWritten

end Cookie

namespace Exchange

/- A cookie is read back from its text, blanks around it or not. -/
theorem cookie?_text
    (c : Cookie)
    (before after : Margin) :
    cookie? (before.val ++ (c.text ++ after.val)) =
      some (c.name, c.value) := by
  have hFirst :
      ∀ d, c.text.head? = some d → isBlank d = false := by
    intro d hHead
    rw [Cookie.text, List.head?_append] at hHead
    rcases Option.or_eq_some_iff.mp hHead with
      hName | ⟨_, hEquals⟩
    · rw [← c.trim_name] at hName
      exact head?_trim c.name.toList d hName
    · cases hEquals
      rfl
  have hLast :
      ∀ d, c.text.getLast? = some d → isBlank d = false := by
    intro d hEnd
    rw [Cookie.text, List.getLast?_append,
      List.getLast?_cons, Option.some_or] at hEnd
    cases hWritten : c.written.getLast? with
    | none =>
        rw [hWritten] at hEnd
        cases hEnd
        rfl
    | some last =>
        rw [hWritten] at hEnd
        cases hEnd
        rw [← c.trim_written] at hWritten
        exact getLast?_trim c.written last hWritten
  have hTrim :
      trim (before.val ++ (c.text ++ after.val)) = c.text :=
    trim_around before.isBlank_of_mem after.isBlank_of_mem
      hFirst hLast
  rw [cookie?, hTrim, Cookie.text,
    cutList_append c.name_plain.1]
  simp [c.trim_name, c.trim_written, c.unquoted_written]

/- A text without an equals sign is no cookie. -/
theorem cookie?_eq_none
    {cs : List Char}
    (hPlain : '=' ∉ cs) :
    cookie? cs = none := by
  have hTrim : '=' ∉ trim cs :=
    fun hMember => hPlain (mem_of_mem_trim hMember)
  rw [cookie?, cutList_eq_none hTrim]
  rfl

end Exchange

------------------------------------------------------------
-- Reading the Fields
------------------------------------------------------------

namespace Exchange

/-
  What is read of one item. An item that is no cookie may hold
  semicolons, and then it is read as several.
-/
theorem filterMap_cookie?_item
    (i : SpacedItem) :
    (i.text.splitOn ';').filterMap cookie? =
      (i.item.cookie?.map fun c => (c.name, c.value)).toList := by
  rcases i with ⟨before, item, after⟩
  cases item with
  | cookie c =>
      have hPlain : ';' ∉ before.val ++ (c.text ++ after.val) := by
        simp [before.semicolon_not_mem, c.semicolon_not_mem,
          after.semicolon_not_mem]
      rw [SpacedItem.text, CookieItem.text,
        List.splitOn_eq_singleton hPlain]
      simp [cookie?_text, CookieItem.cookie?]
  | other cs hPlain =>
      have hEquals : '=' ∉ before.val ++ (cs ++ after.val) := by
        simp [before.equals_not_mem, hPlain,
          after.equals_not_mem]
      refine List.filterMap_eq_nil_iff.mpr ?_
      intro piece hPiece
      apply cookie?_eq_none
      intro hMember
      exact
        hEquals (of_mem_splitOn ';' _ piece hPiece '='
          hMember).1

/- The cookies of a field are those that were written into it. -/
theorem cookiesOf_text
    {field : CookieField}
    {text : String}
    (hText : field.text? = some text) :
    cookiesOf text =
      field.cookies.map fun c => (c.name, c.value) := by
  cases field with
  | unreadable => cases hText
  | items is =>
      cases hText
      rw [cookiesOf, String.toList_ofList, CookieField.cookies]
      by_cases hNone : is = []
      · subst hNone
        rfl
      · have hSome : is.map SpacedItem.text ≠ [] := by
          simpa using hNone
        rw [splitOn_intercalate_eq_flatMap hSome,
          List.filterMap_flatMap, List.flatMap_map,
          List.filterMap_eq_flatMap_toList, List.map_flatMap]
        refine List.flatMap_congr fun i _ => ?_
        rw [filterMap_cookie?_item, Option.toList_map]

/-
  So the cookies of all readable fields are read, whatever
  unreadable ones stand between them.
-/
theorem flatMap_cookiesOf
    (fields : List CookieField) :
    (fields.filterMap CookieField.text?).flatMap cookiesOf =
      (fields.flatMap CookieField.cookies).map
        fun c => (c.name, c.value) := by
  induction fields with
  | nil => rfl
  | cons field fields ih =>
      rw [List.flatMap_cons, List.map_append, ← ih]
      cases hText : field.text? with
      | none =>
          cases field with
          | unreadable =>
              rw [List.filterMap_cons_none hText]
              rfl
          | items is => cases hText
      | some text =>
          rw [List.filterMap_cons_some hText, List.flatMap_cons,
            cookiesOf_text hText]

/-
  Whatever the fields are, the values under a name are those of
  all cookies of the name that were written into them.
-/
theorem cookieValues_written
    {x : Exchange}
    {fields : List CookieField}
    (hFields :
      (x.headers.values "cookie").map HeaderValue.readable? =
        fields.map CookieField.text?)
    (name : String) :
    x.cookieValues name =
      ((fields.flatMap CookieField.cookies).filter
        fun c => c.name = name).map Cookie.value := by
  have hTexts :
      x.headerValues "cookie" =
        fields.filterMap CookieField.text? := by
    have hJoined := congrArg (List.filterMap id) hFields
    rwa [List.filterMap_map, List.filterMap_map] at hJoined
  rw [cookieValues, hTexts, flatMap_cookiesOf, valuesUnder,
    List.filter_map, List.map_map]
  rfl

/- A value in quotes, with a blank and a quote of its own. -/
def quotedCookie : Cookie where
  name := "id"
  value := " x=\"y "
  isQuoted := true
  name_trimmed := by decide
  name_plain := by decide
  value_plain := by decide
  value_first := by decide
  value_last := by decide
  value_trimmed := fun hPlain => Bool.noConfusion hPlain

/- An empty value without quotes. -/
def emptyCookie : Cookie where
  name := "id"
  value := ""
  isQuoted := false
  name_trimmed := by decide
  name_plain := by decide
  value_plain := by decide
  value_first := by decide
  value_last := by decide
  value_trimmed := fun _ => rfl

def emptyMargin : Margin :=
  ⟨[], List.forall_mem_nil _⟩

def tabMargin : Margin :=
  ⟨['\t', ' '], by simp⟩

/- A field that cannot be read before one that can. -/
def mixedFields : List CookieField :=
  [.unreadable,
    .items
      [⟨emptyMargin, .other ['i', 'd'] (by decide), tabMargin⟩,
        ⟨tabMargin, .cookie quotedCookie, emptyMargin⟩,
        ⟨emptyMargin, .cookie emptyCookie, emptyMargin⟩]]

/- A request with these fields. -/
def mixedRequest : Exchange where
  headers :=
    [(⟨"cookie", by decide +kernel⟩, ⟨[0xFF], by decide⟩),
      (⟨"cookie", by decide +kernel⟩,
        ⟨octets "id\t ;\t id=\" x=\"y \";id=",
          by decide +kernel⟩)]

/- The blanks and the quote within the quotes are kept. -/
theorem cookieValues_written_mixed :
    (mixedRequest.headers.values "cookie").map
        HeaderValue.readable? =
      mixedFields.map CookieField.text? ∧
      mixedRequest.cookieValues "id" = [" x=\"y ", ""] := by
  have hFields :
      (mixedRequest.headers.values "cookie").map
          HeaderValue.readable? =
        mixedFields.map CookieField.text? := by
    decide +kernel
  refine ⟨hFields, ?_⟩
  rw [cookieValues_written hFields "id"]
  decide +kernel

end Exchange

end Signpost
