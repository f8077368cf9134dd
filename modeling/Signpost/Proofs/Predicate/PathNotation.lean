import Signpost.Predicate.Standard
import Signpost.Proofs.Component.Binding
import Signpost.Proofs.Predicate.ShortCircuit
import Signpost.Proofs.Route.Compilation

/-
  The predicate for paths can be written in short, with its
  flag behind its patterns, or in full, with a name for the
  flag.  A truth value behind the patterns is taken as the
  flag in both notations, so they say the same only where
  the patterns do not end in a truth value.

  Main declarations:
    * `PathPatterns.Covers` and `PathPatterns.IsListed`
    * `PathPatterns.FlagBehind`
    * `PathPatterns.exists_ofArguments`
    * `PathPatterns.Asks`
    * `PathPatterns.asks_short` and `PathPatterns.asks_full`
    * `PathPatterns.notations`
-/

namespace Signpost

open Text

------------------------------------------------------------
-- Truth Values
------------------------------------------------------------

namespace Arguments

/- A truth value is spelled by just one text. -/
theorem bool?_eq_some_iff
    {v : String}
    {b : Bool} :
    bool? v = some b ↔ v = toString b := by
  constructor
  · intro hValue
    unfold bool? at hValue
    split at hValue
    · rename_i hTrue
      cases hValue
      exact hTrue
    · split at hValue
      · rename_i hFalse
        cases hValue
        exact hFalse
      · cases hValue
  · intro hText
    rw [hText]
    cases b <;> rfl

/- Arguments that all have names are left as they are. -/
theorem bind_of_named
    {raw : Arguments}
    (hNames : ∀ k v, raw.get? k = some v → number? k = none)
    (fields : List String)
    (shortcut : Shortcut) :
    bind raw fields shortcut = .ok raw := by
  have hNone : ∀ e ∈ raw.toList, number? e.1 = none := by
    intro e hEntry
    exact hNames e.1 e.2 ((raw.mem_toList_iff e.1 e.2).mp hEntry)
  have hNumbered : numbered raw = [] := by
    apply List.filterMap_eq_nil_iff.mpr
    intro e hEntry
    simp [hNone e hEntry]
  have hNamed : raw.toList.filter
      (fun e => (number? e.1).isNone) = raw.toList := by
    apply List.filter_eq_self.mpr
    intro e hEntry
    simp [hNone e hEntry]
  simp [bind, inOrder, hNumbered, named, Dict.keep, hNamed]

end Arguments

namespace PathPatterns

------------------------------------------------------------
-- What Is Asked of a Path
------------------------------------------------------------

/- A text is a pattern that matches a path. -/
def Matches (p path : String) : Prop :=
  ∃ g, Glob.parse '/' p = .ok g ∧ g.accepts path = true

/-
  Some pattern matches a path.  With the flag one slash at
  its end does not count, if there is anything before it.
-/
def Covers
    (ps : List String)
    (b : Bool)
    (path : String) : Prop :=
  (∃ p ∈ ps, Matches p path) ∨
    b = true ∧
      ∃ q, q ≠ "" ∧ path = q ++ "/" ∧ ∃ p ∈ ps, Matches p q

/-
  A pattern that can be written next to others: it is not
  empty and has neither commas nor outer white space.
-/
structure IsListed (p : String) : Prop where
  filled : p ≠ ""
  comma : ',' ∉ p.toList
  trim : trimmed p = p
  parse : ∃ g, Glob.parse '/' p = .ok g

/- A truth value could be a pattern just as well. -/
theorem isListed_toString
    (b : Bool) :
    IsListed (toString b) := by
  cases b with
  | false =>
      exact
        { filled := by decide
          comma := by decide
          trim := by decide
          parse := ⟨⟨'/', [.literal "false"]⟩, by decide⟩ }
  | true =>
      exact
        { filled := by decide
          comma := by decide
          trim := by decide
          parse := ⟨⟨'/', [.literal "true"]⟩, by decide⟩ }

/- A path is put together again from what is before its slash. -/
theorem withoutSlash?_eq_some_iff
    {path q : String} :
    withoutSlash? path = some q ↔
      q ≠ "" ∧ path = q ++ "/" := by
  constructor
  · intro hShort
    unfold withoutSlash? at hShort
    split at hShort
    · rename_i rest hSlash
      split at hShort
      · cases hShort
      · rename_i hRest
        cases hShort
        have hPath : path.toList = rest.reverse ++ ['/'] := by
          rw [List.reverse_eq_iff.mp hSlash, List.reverse_cons]
        constructor
        · simpa [← String.toList_inj] using hRest
        · rw [← String.toList_inj, hPath, String.toList_append,
            String.toList_ofList]
          rfl
    · cases hShort
  · intro hLong
    rcases hLong with ⟨hSome, rfl⟩
    simp [withoutSlash?, hSome]

/- Patterns that are read accept what they cover. -/
theorem accepts_iff_covers
    {ps : List String}
    {gs : List Glob}
    (hParse : ps.mapM (Glob.parse '/') = .ok gs)
    (b : Bool)
    (path : String) :
    accepts ⟨gs, b⟩ path = true ↔ Covers ps b path := by
  have hMatches : ∀ path,
      (∃ g ∈ gs, g.accepts path = true) ↔
        ∃ p ∈ ps, Matches p path :=
    fun path =>
      exists_mem_mapM_iff hParse fun g => g.accepts path = true
  simp only [accepts, List.any_eq_true, Bool.or_eq_true,
    Bool.and_eq_true, Option.any_eq_true]
  rw [Covers, ← hMatches path]
  constructor
  · intro hAccepts
    rcases hAccepts with
      ⟨g, hg, hHere | ⟨hFlag, q, hShort, hThere⟩⟩
    · exact Or.inl ⟨g, hg, hHere⟩
    · rcases withoutSlash?_eq_some_iff.mp hShort with
        ⟨hSome, hPath⟩
      exact
        Or.inr
          ⟨hFlag, q, hSome, hPath,
            (hMatches q).mp ⟨g, hg, hThere⟩⟩
  · intro hCovers
    rcases hCovers with
      ⟨g, hg, hHere⟩ | ⟨hFlag, q, hSome, hPath, hThere⟩
    · exact ⟨g, hg, Or.inl hHere⟩
    · rcases (hMatches q).mpr hThere with ⟨g, hg, hThere⟩
      exact
        ⟨g, hg,
          Or.inr
            ⟨hFlag, q,
              withoutSlash?_eq_some_iff.mpr ⟨hSome, hPath⟩,
              hThere⟩⟩

------------------------------------------------------------
-- The Flag behind the Patterns
------------------------------------------------------------

/- Items end in a truth value that is not the only item. -/
def FlagBehind
    (items before : List String)
    (b : Bool) : Prop :=
  before ≠ [] ∧ items = before ++ [toString b]

/- It is taken as the flag. -/
theorem splitFlag_of_flag
    {items before : List String}
    {b : Bool}
    (hBehind : FlagBehind items before b)
    (flag : Bool) :
    splitFlag items flag = (before, b) := by
  rcases hBehind with ⟨hBefore, rfl⟩
  have hValue : Arguments.bool? (toString b) = some b :=
    Arguments.bool?_eq_some_iff.mpr rfl
  simp only [splitFlag, List.reverse_append,
    List.reverse_singleton, List.singleton_append, hValue,
    List.reverse_reverse]
  simp [hBefore]

/- Without one the items and the flag are left alone. -/
theorem splitFlag_of_no_flag
    {items : List String}
    (hNone : ∀ before b, ¬ FlagBehind items before b)
    (flag : Bool) :
    splitFlag items flag = (items, flag) := by
  unfold splitFlag
  split
  · rename_i last before hReverse
    have hItems : items = before.reverse ++ [last] := by
      rw [List.reverse_eq_iff.mp hReverse, List.reverse_cons]
    split
    · rfl
    · rename_i hBefore
      split
      · rename_i b hValue
        rw [Arguments.bool?_eq_some_iff] at hValue
        rw [hValue] at hItems
        have hSome : before.reverse ≠ [] := by
          simpa using hBefore
        exact absurd ⟨hSome, hItems⟩ (hNone before.reverse b)
      · rfl
  · rfl

/- Patterns and a flag are read from arguments. -/
theorem exists_ofArguments
    {a : Arguments}
    {items ps : List String}
    {flag b : Bool}
    (hItems : a.list "patterns" = .ok items)
    (hFlag : a.bool "matchTrailingSlash" true = .ok flag)
    (hSplit : splitFlag items flag = (ps, b))
    (hParse : ∀ p ∈ ps, ∃ g, Glob.parse '/' p = .ok g) :
    ∃ p,
      ofArguments a = .ok p ∧
        ∀ path, p.accepts path = true ↔ Covers ps b path := by
  rcases exists_mapM_iff.mpr hParse with ⟨gs, hGlobs⟩
  refine ⟨⟨gs, b⟩, ?_, accepts_iff_covers hGlobs b⟩
  simp only [ofArguments, hItems, hFlag, Bind.bind, Except.bind,
    hSplit, hGlobs]
  rfl

------------------------------------------------------------
-- What a Notation Asks
------------------------------------------------------------

/-
  A specification is compiled to a predicate that never
  fails and accepts the requests with some paths.
-/
def Asks
    (registry : Registry PredicateFactory)
    (timeout : Option Duration)
    (route : String)
    (spec : ComponentSpec)
    (accepted : String → Prop) : Prop :=
  ∃ c,
    Conjunction.compile registry timeout route [spec] = .ok c ∧
      ∀ x, ∃ b,
        (c.test x).verdict = .ok b ∧ (b = true ↔ accepted x.path)

section Notations

variable {registry : Registry PredicateFactory}
variable {timeout : Option Duration}
variable {route : String}

/- No specification asks two different things. -/
theorem Asks.iff
    {spec : ComponentSpec}
    {accepted other : String → Prop}
    (hAsks : Asks registry timeout route spec accepted)
    (hOther : Asks registry timeout route spec other)
    (x : Exchange) :
    accepted x.path ↔ other x.path := by
  rcases hAsks with ⟨c, hCompile, hTest⟩
  rcases hOther with ⟨c', hCompile', hTest'⟩
  rw [hCompile] at hCompile'
  cases hCompile'
  rcases hTest x with ⟨b, hVerdict, hAccepted⟩
  rcases hTest' x with ⟨b', hVerdict', hOther⟩
  rw [hVerdict] at hVerdict'
  cases hVerdict'
  exact hAccepted.symm.trans hOther

/- The arguments as they are bound decide what is asked. -/
theorem asks_of_bind
    (hFactory : registry.resolve? "Path" = some pathFactory)
    {raw a : Arguments}
    {items ps : List String}
    {flag b : Bool}
    (hBind :
      raw.bind pathFactory.fields pathFactory.shortcut = .ok a)
    (hItems : a.list "patterns" = .ok items)
    (hFlag : a.bool "matchTrailingSlash" true = .ok flag)
    (hSplit : splitFlag items flag = (ps, b))
    (hParse : ∀ p ∈ ps, ∃ g, Glob.parse '/' p = .ok g) :
    Asks registry timeout route ⟨"Path", raw⟩ (Covers ps b) := by
  rcases exists_ofArguments hItems hFlag hSplit hParse with
    ⟨p, hPatterns, hAccepts⟩
  have hProvides :
      Provides registry ⟨"Path", raw⟩
        (Predicate.immediate "Path" fun x =>
          p.accepts x.path) := by
    refine ⟨pathFactory, a, hFactory, hBind, ?_⟩
    simp only [pathFactory, hPatterns, Bind.bind, Except.bind]
    rfl
  have hComponents :
      components .predicate registry route [⟨"Path", raw⟩] =
        .ok
          [Predicate.immediate "Path" fun x =>
            p.accepts x.path] :=
    components_eq_ok_iff.mpr (.cons hProvides .nil)
  refine
    ⟨_, map_eq_ok_iff.mpr ⟨_, hComponents, rfl⟩, ?_⟩
  intro x
  exact
    ⟨p.accepts x.path, Conjunction.verdict_immediate timeout x,
      hAccepts x.path⟩

------------------------------------------------------------
-- The Two Notations
------------------------------------------------------------

variable {ps : List String}

/- Patterns are listed as they are written. -/
theorem list_joined
    (hSome : ps ≠ [])
    (hPatterns : ∀ p ∈ ps, IsListed p)
    {a : Arguments}
    {key : String}
    (hKey : a.get? key = some (joined "," ps)) :
    a.list key = .ok ps := by
  have hFilled : ps.filter (fun p => !p.isEmpty) = ps := by
    apply List.filter_eq_self.mpr
    intro p hp
    simpa using (hPatterns p hp).filled
  have hList :=
    (Arguments.list_joined hSome
      (fun p hp => (hPatterns p hp).comma)
      (fun p hp => (hPatterns p hp).trim) hKey).2
  rw [hFilled] at hList
  exact hList hSome

/- In short the last item is the flag. -/
theorem asks_short
    (hFactory : registry.resolve? "Path" = some pathFactory)
    (hSome : ps ≠ [])
    (hPatterns : ∀ p ∈ ps, IsListed p)
    (hSize : ps.length < UInt64.size)
    (b : Bool) :
    ∃ spec,
      ComponentSpec.parse
          (ComponentSpec.shortcut "Path" (ps ++ [toString b])) =
        .ok spec ∧
        Asks registry timeout route spec (Covers ps b) := by
  have hSomeItem : ps ++ [toString b] ≠ [] := by simp
  have hItems : ∀ p ∈ ps ++ [toString b], IsListed p := by
    intro p hp
    rcases List.mem_append.mp hp with hp | hp
    · exact hPatterns p hp
    · rw [List.mem_singleton.mp hp]
      exact isListed_toString b
  have hSize : (ps ++ [toString b]).length ≤ UInt64.size := by
    simpa using hSize
  refine
    ⟨_,
      ComponentSpec.parse_shortcut (by decide) (by decide)
        (by decide) hSomeItem
        (fun p hp => (hItems p hp).comma)
        (fun p hp => (hItems p hp).trim),
      ?_⟩
  apply
    asks_of_bind hFactory
      (Arguments.bind_gather hSize hSomeItem _ _)
      (list_joined hSomeItem hItems
        (Dict.get?_insert_self _ _ _))
      ?_
      (splitFlag_of_flag ⟨hSome, rfl⟩ true)
      (fun p hp => (hPatterns p hp).parse)
  simp [Arguments.bool, Arguments.optional,
    Dict.get?_insert_of_ne]

/- The patterns and their flag in full. -/
def inFull (ps : List String) (b : Bool) : ComponentSpec :=
  { name := "Path"
    args :=
      .ofList
        [("patterns", joined "," ps),
          ("matchTrailingSlash", toString b)] }

/- In full the items are split once more. -/
theorem asks_full
    (hFactory : registry.resolve? "Path" = some pathFactory)
    (hSome : ps ≠ [])
    (hPatterns : ∀ p ∈ ps, IsListed p)
    {ps' : List String}
    {b b' : Bool}
    (hSplit : splitFlag ps b = (ps', b'))
    (hParse : ∀ p ∈ ps', ∃ g, Glob.parse '/' p = .ok g) :
    Asks registry timeout route (inFull ps b)
      (Covers ps' b') := by
  have hEntries :
      ∀ k v,
        (inFull ps b).args.get? k = some v ↔
          (k, v) ∈
            [("patterns", joined "," ps),
              ("matchTrailingSlash", toString b)] :=
    fun k v => Dict.get?_ofList_eq_some_iff (by simp)
  have hBind :
      (inFull ps b).args.bind pathFactory.fields
          pathFactory.shortcut =
        .ok (inFull ps b).args := by
    apply Arguments.bind_of_named
    intro k v hEntry
    have hKey : k = "patterns" ∨ k = "matchTrailingSlash" := by
      simpa using
        List.mem_map_of_mem (f := Prod.fst)
          ((hEntries k v).mp hEntry)
    rcases hKey with rfl | rfl
    · decide
    · decide
  have hItems :
      (inFull ps b).args.list "patterns" = .ok ps :=
    list_joined hSome hPatterns
      ((hEntries _ _).mpr (by simp))
  have hFlag :
      (inFull ps b).args.bool "matchTrailingSlash" true =
        .ok b := by
    have hValue :
        (inFull ps b).args.optional "matchTrailingSlash" =
          some (toString b) :=
      Arguments.optional_of_get?
        ((hEntries _ _).mpr (by simp))
        (isListed_toString b).filled
    simp [Arguments.bool, hValue,
      Arguments.bool?_eq_some_iff.mpr rfl]
  exact asks_of_bind hFactory hBind hItems hFlag hSplit hParse

/-
  In short patterns and a flag ask for just the paths that
  the patterns cover with the flag, whatever the patterns
  are.  In full they ask for the same, unless a truth value
  is behind other patterns: then it is the flag, the pattern
  is lost and the named flag does not count.

  The values are fewer than a word can count.
-/
theorem notations
    (hFactory : registry.resolve? "Path" = some pathFactory)
    (hSome : ps ≠ [])
    (hPatterns : ∀ p ∈ ps, IsListed p)
    (hSize : ps.length < UInt64.size)
    (b : Bool) :
    (∃ spec,
      ComponentSpec.parse
          (ComponentSpec.shortcut "Path" (ps ++ [toString b])) =
        .ok spec ∧
        Asks registry timeout route spec (Covers ps b)) ∧
      ((∀ before flag, ¬ FlagBehind ps before flag) →
        Asks registry timeout route (inFull ps b)
          (Covers ps b)) ∧
      ∀ before flag,
        FlagBehind ps before flag →
          Asks registry timeout route (inFull ps b)
            (Covers before flag) := by
  refine
    ⟨asks_short hFactory hSome hPatterns hSize b, ?_, ?_⟩
  · intro hNone
    exact
      asks_full hFactory hSome hPatterns
        (splitFlag_of_no_flag hNone b)
        fun p hp => (hPatterns p hp).parse
  · intro before flag hBehind
    apply
      asks_full hFactory hSome hPatterns
        (splitFlag_of_flag hBehind b)
    intro p hp
    apply IsListed.parse
    apply hPatterns
    rw [hBehind.2]
    exact List.mem_append_left _ hp

end Notations

/- The predicate for paths is always there. -/
theorem resolve?_standardPredicates :
    standardPredicates.resolve? "Path" = some pathFactory := by
  apply (Dict.get?_ofList_eq_some_iff ?_).mpr
  · simp [Factory.entry, pathFactory]
  · decide

/- Two patterns and a strict flag in both notations. -/
theorem notations_strict :
    (∃ spec,
      ComponentSpec.parse "Path=/red,/blue/**,false" =
        .ok spec ∧
        Asks standardPredicates none "r" spec
          (Covers ["/red", "/blue/**"] false)) ∧
      Asks standardPredicates none "r"
        (inFull ["/red", "/blue/**"] false)
        (Covers ["/red", "/blue/**"] false) := by
  have hPatterns : ∀ p ∈ ["/red", "/blue/**"], IsListed p := by
    rw [List.forall_mem_cons, List.forall_mem_singleton]
    constructor
    · exact
        { filled := by decide
          comma := by decide
          trim := by decide
          parse := ⟨⟨'/', [.literal "red"]⟩, by decide⟩ }
    · exact
        { filled := by decide
          comma := by decide
          trim := by decide
          parse := ⟨⟨'/', [.literal "blue", .rest]⟩, by decide⟩ }
  rcases
      @notations standardPredicates none "r"
        ["/red", "/blue/**"] resolve?_standardPredicates
        (by decide) hPatterns (by decide) false with
    ⟨hShort, hFull, -⟩
  refine ⟨hShort, hFull ?_⟩
  intro before flag hBehind
  have hLast : some "/blue/**" = some (toString flag) := by
    calc
      some "/blue/**" = ["/red", "/blue/**"].getLast? := rfl
      _ = (before ++ [toString flag]).getLast? :=
          congrArg List.getLast? hBehind.2
      _ = some (toString flag) := List.getLast?_concat
  cases flag with
  | false => exact absurd hLast (by decide)
  | true => exact absurd hLast (by decide)

/- The pattern `true` is lost and makes the flag lenient. -/
theorem notations_lost_pattern :
    (∀ p ∈ ["/a", "true"], IsListed p) ∧
      ¬ Asks standardPredicates none "r"
          (inFull ["/a", "true"] false)
          (Covers ["/a", "true"] false) := by
  have hParse :
      Glob.parse '/' "/a" = .ok ⟨'/', [.literal "a"]⟩ := by
    decide
  have hPatterns : ∀ p ∈ ["/a", "true"], IsListed p := by
    rw [List.forall_mem_cons, List.forall_mem_singleton]
    refine ⟨?_, isListed_toString true⟩
    exact
      { filled := by decide
        comma := by decide
        trim := by decide
        parse := ⟨_, hParse⟩ }
  refine ⟨hPatterns, ?_⟩
  intro hAsks
  have hRead :
      Asks standardPredicates none "r"
        (inFull ["/a", "true"] false) (Covers ["/a"] true) :=
    asks_full resolve?_standardPredicates (by decide)
      hPatterns
      (@splitFlag_of_flag _ ["/a"] true
        ⟨by decide, rfl⟩ false)
      (List.forall_mem_singleton.mpr ⟨_, hParse⟩)
  have hLenient : Covers ["/a"] true "/a/" := by
    refine Or.inr ⟨rfl, "/a", by decide, by decide, ?_⟩
    exact
      ⟨"/a", List.mem_singleton_self _, _, hParse, by decide⟩
  have hSame :=
    hAsks.iff hRead
      { uri := { Http.Uri.root with path := "/a/" } }
  rcases hSame.mpr hLenient with
    ⟨p, hp, g, hGlob, hAccepts⟩ | ⟨hFlag, -⟩
  · -- Neither pattern alone matches a path with a slash behind.
    have hTrue :
        Glob.parse '/' "true" = .ok ⟨'/', [.literal "true"]⟩ := by
      decide
    rcases List.mem_cons.mp hp with rfl | hp
    · rw [hParse] at hGlob
      cases hGlob
      exact absurd hAccepts (by decide)
    · rw [List.mem_singleton.mp hp, hTrue] at hGlob
      cases hGlob
      exact absurd hAccepts (by decide)
  · cases hFlag

end PathPatterns

end Signpost
