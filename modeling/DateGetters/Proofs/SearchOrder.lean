import DateGetters.Config.Search
import DateGetters.Proofs.Outcomes
import DateGetters.Proofs.TextPieces

/-!
# Where a configuration is found

A configuration is looked for at the paths that are named, the given one before
that of the environment, and last below the working directory.  The first of
them at which something is is taken; if nothing is at any of them, the message
lists them all in this order.

What is found depends on the paths up to the one that is taken, and on nothing
behind it.
-/

namespace DateGetters.Proofs.SearchOrder

open DateGetters.Proofs.Outcomes
open DateGetters.Proofs.TextPieces
open DateGetters.Search

/-! ## The first path at which something is -/

/-- A path at which something is, with nothing at the paths in front of it. -/
def IsFirst (isThere : Path → Outcome Bool) (paths : List Path) (path : Path) : Prop :=
  ∃ before after,
    paths = before ++ path :: after ∧
      (∀ earlier ∈ before, isThere earlier = .ok false) ∧
      isThere path = .ok true

section First

variable {isThere : Path → Outcome Bool} {paths : List Path} {path : Path}

theorem firstThere_of_there (there : isThere path = .ok true) (others : List Path) :
    firstThere isThere (path :: others) = .ok (some path) := by
  rw [firstThere, there, ok_bind, if_pos rfl]

theorem firstThere_of_not_there (notThere : isThere path = .ok false) (others : List Path) :
    firstThere isThere (path :: others) = firstThere isThere others := by
  rw [firstThere, notThere, ok_bind, if_neg Bool.false_ne_true]

/-- Paths at which nothing is are passed over. -/
theorem firstThere_append
    {before : List Path} (notThere : ∀ earlier ∈ before, isThere earlier = .ok false)
    (rest : List Path) :
    firstThere isThere (before ++ rest) = firstThere isThere rest := by
  induction before with
  | nil =>
      rfl
  | cons earlier others ih =>
      rw [List.forall_mem_cons] at notThere
      rw [List.cons_append, firstThere_of_not_there notThere.1, ih notThere.2]

theorem findAmong_of_isFirst (first : IsFirst isThere paths path) :
    findAmong isThere paths = .ok path := by
  rcases first with ⟨before, after, rfl, notThere, there⟩
  rw [findAmong, firstThere_append notThere, firstThere_of_there there, ok_bind]

theorem findAmong_of_nothing (notThere : ∀ path ∈ paths, isThere path = .ok false) :
    findAmong isThere paths = .error (.noConfiguration (paths.map Path.text)) := by
  have passedOver : firstThere isThere paths = .ok none := by
    have appended := firstThere_append notThere []
    rwa [List.append_nil] at appended
  rw [findAmong, passedOver, ok_bind]

/-- Where every path can be checked, something is at one of them first, or nothing is at any. -/
theorem exists_isFirst_or_nothing
    (answered : ∀ path ∈ paths, ∃ there, isThere path = .ok there) :
    (∃ path, IsFirst isThere paths path) ∨ ∀ path ∈ paths, isThere path = .ok false := by
  induction paths with
  | nil =>
      exact Or.inr fun _ member => absurd member List.not_mem_nil
  | cons path others ih =>
      rw [List.forall_mem_cons] at answered
      rcases answered.1 with ⟨there, checked⟩
      cases there with
      | true =>
          exact Or.inl ⟨path, [], others, rfl, by simp, checked⟩
      | false =>
          rcases ih answered.2 with ⟨found, before, after, rfl, notThere, there⟩ | nothing
          · exact Or.inl ⟨found, path :: before, after, rfl,
              List.forall_mem_cons.mpr ⟨checked, notThere⟩, there⟩
          · exact Or.inr (List.forall_mem_cons.mpr ⟨checked, nothing⟩)

theorem isFirst_of_findAmong
    (answered : ∀ path ∈ paths, ∃ there, isThere path = .ok there)
    (found : findAmong isThere paths = .ok path) :
    IsFirst isThere paths path := by
  rcases exists_isFirst_or_nothing answered with ⟨other, first⟩ | nothing
  · rw [findAmong_of_isFirst first] at found
    rwa [← Except.ok.inj found]
  · rw [findAmong_of_nothing nothing] at found
    cases found

theorem nothing_of_findAmong
    (answered : ∀ path ∈ paths, ∃ there, isThere path = .ok there)
    {fault : Fault} (failed : findAmong isThere paths = .error fault) :
    ∀ path ∈ paths, isThere path = .ok false := by
  rcases exists_isFirst_or_nothing answered with ⟨other, first⟩ | nothing
  · rw [findAmong_of_isFirst first] at failed
    cases failed
  · exact nothing

/-- What is first is also first by other checks that agree up to there. -/
theorem IsFirst.of_agree
    (first : IsFirst isThere paths path)
    {before after : List Path} (split : paths = before ++ path :: after)
    {other : Path → Outcome Bool}
    (agree : ∀ seen ∈ before ++ [path], other seen = isThere seen) :
    IsFirst other paths path := by
  rcases first with ⟨passed, rest, cut, notThere, there⟩
  have within : passed ++ [path] <+: before ++ [path] := by
    have firstCut : passed ++ [path] <+: paths := ⟨rest, by rw [cut, ← List.append_cons]⟩
    have anyCut : before ++ [path] <+: paths := ⟨after, by rw [split, ← List.append_cons]⟩
    rcases List.prefix_or_prefix_of_prefix firstCut anyCut with shorter | longer
    · exact shorter
    · rcases List.prefix_concat_iff.mp longer with same | inPassed
      · exact ⟨[], by rw [same, List.append_nil]⟩
      · -- Nothing is at a path that was passed over, so this one was not.
        have member : path ∈ passed :=
          inPassed.subset (List.mem_append_right _ (List.mem_singleton_self path))
        rw [notThere path member] at there
        cases there
  refine ⟨passed, rest, cut, ?_, ?_⟩
  · intro earlier member
    rw [agree earlier (within.subset (List.mem_append_left _ member)), notThere earlier member]
  · rw [agree path (List.mem_append_right _ (List.mem_singleton_self path)), there]

end First

/-! ## Paths as they are printed -/

/-- A name that stands in a path when it has been read. -/
structure IsName (name : String) : Prop where
  notEmpty : name ≠ ""
  notDot : name ≠ "."
  noSlash : '/' ∉ name.toList

theorem isName_of_mem_names
    {text name : String} (member : name ∈ (Path.ofText text).names) :
    IsName name := by
  rw [Path.ofText, List.mem_filter, Bool.and_eq_true, bne_iff_ne, bne_iff_ne] at member
  rcases member with ⟨cut, notEmpty, notDot⟩
  refine ⟨notEmpty, notDot, ?_⟩
  rcases List.mem_map.mp cut with ⟨piece, inPieces, rfl⟩
  rw [String.toList_ofList]
  intro slash
  exact (mem_of_mem_piece inPieces slash).2 rfl

section Printing

variable {names : List String} (named : ∀ name ∈ names, IsName name)

include named

/-- Reading gets back the names that slashes join. -/
theorem filter_split_intercalate :
    (Text.split '/' ("/".intercalate names)).filter (fun name => name != "" && name != ".") =
      names := by
  cases names with
  | nil =>
      decide
  | cons name others =>
      have cut : Text.split '/' ("/".intercalate (name :: others)) = name :: others :=
        split_intercalate (List.cons_ne_nil name others) fun name member =>
          (named name member).noSlash
      rw [cut, List.filter_eq_self]
      intro name member
      simp [(named name member).notEmpty, (named name member).notDot]

theorem head?_intercalate_ne :
    ("/".intercalate names).toList.head? ≠ some '/' := by
  cases names with
  | nil =>
      decide
  | cons name others =>
      have isName := named name List.mem_cons_self
      cases spelled : name.toList with
      | nil =>
          exact absurd (String.toList_eq_nil_iff.mp spelled) isName.notEmpty
      | cons first rest =>
          have notSlash : first ≠ '/' := by
            intro same
            apply isName.noSlash
            rw [spelled, same]
            exact List.mem_cons_self
          cases others <;> simp [spelled, notSlash]

end Printing

theorem anchorOf_of_head?_ne
    {characters : List Char} (other : characters.head? ≠ some '/') :
    Path.anchorOf characters = .relative ∧
      Path.anchorOf ('/' :: characters) = .root ∧
      Path.anchorOf ('/' :: '/' :: characters) = .doubleRoot := by
  cases characters with
  | nil =>
      decide
  | cons first rest =>
      have notSlash : first ≠ '/' := by simpa using other
      simp [Path.anchorOf, notSlash]

theorem split_slash (text : String) :
    Text.split '/' ("/" ++ text) = "" :: Text.split '/' text := by
  simp [Text.split, Text.pieces]

/-- A path that is printed and read again is the same path. -/
theorem ofText_text
    {path : Path} (named : ∀ name ∈ path.names, IsName name)
    (apart : ∀ directory, path.anchor ≠ .workingDirectory directory) :
    Path.ofText path.text = path := by
  rcases path with ⟨anchor, names⟩
  have kept := filter_split_intercalate named
  rcases anchorOf_of_head?_ne (head?_intercalate_ne named) with ⟨relative, root, doubleRoot⟩
  cases anchor with
  | relative =>
      cases names with
      | nil =>
          decide
      | cons name others =>
          have printed : Path.text ⟨.relative, name :: others⟩ =
              "/".intercalate (name :: others) := rfl
          rw [printed, Path.ofText, kept, relative]
  | root =>
      have printed : Path.text ⟨.root, names⟩ = "/" ++ "/".intercalate names := rfl
      rw [printed, Path.ofText, split_slash, List.filter_cons_of_neg (by decide), kept,
        String.toList_append, ← root]
      rfl
  | doubleRoot =>
      have printed : Path.text ⟨.doubleRoot, names⟩ = "/" ++ ("/" ++ "/".intercalate names) := by
        rw [← String.append_assoc]
        rfl
      rw [printed, Path.ofText, split_slash, List.filter_cons_of_neg (by decide), split_slash,
        List.filter_cons_of_neg (by decide), kept, String.toList_append, String.toList_append,
        ← doubleRoot]
      rfl
  | workingDirectory directory =>
      exact absurd rfl (apart directory)

theorem ofText_text_ofText (text : String) :
    Path.ofText (Path.ofText text).text = Path.ofText text := by
  apply ofText_text
  · intro name member
    exact isName_of_mem_names member
  · intro directory
    simp only [Path.ofText]
    unfold Path.anchorOf
    split <;> simp

/-! ## The places of a configuration -/

/-- The texts that name a place: the given one and that of the environment, unless empty. -/
def namedTexts (given : Option String) (environment : Environment) : List String :=
  (given.toList ++ (environment.lookup "LOCALIZED_DATE_CONFIG_PATH").toList).filter (· ≠ "")

/-- The paths at which a configuration is looked for. -/
def places (directory : String) (given : Option String) (environment : Environment) : List Path :=
  (namedTexts given environment).map Path.ofText ++
    [⟨.workingDirectory directory, ["config", "localized_date.yaml"]⟩]

/-- These paths as they are printed. -/
def listing (directory : String) (given : Option String) (environment : Environment) :
    List String :=
  (namedTexts given environment).map (fun text => (Path.ofText text).text) ++
    [if directory = "/" then "/config/localized_date.yaml"
      else directory ++ "/config/localized_date.yaml"]

section Places

variable (directory : String) (given : Option String) (environment : Environment)

theorem named_eq (option : Option String) :
    named option = (option.toList.filter (· ≠ "")).map Path.ofText := by
  cases option with
  | none =>
      rfl
  | some text =>
      by_cases empty : text = ""
      · rw [empty]
        rfl
      · simp [named, empty]

theorem candidates_eq_places :
    candidates directory given (environment.lookup Location.variableName) =
      places directory given environment := by
  rw [candidates, named_eq, named_eq, places, namedTexts, List.filter_append, List.map_append]
  rfl

theorem text_default :
    Path.text ⟨.workingDirectory directory, ["config", "localized_date.yaml"]⟩ =
      if directory = "/" then "/config/localized_date.yaml"
      else directory ++ "/config/localized_date.yaml" := by
  by_cases root : directory = "/"
  · rw [root]
    decide
  · have below : "/" ++ "/".intercalate ["config", "localized_date.yaml"] =
        "/config/localized_date.yaml" := by
      decide
    rw [if_neg root, ← below, ← String.append_assoc]
    exact if_neg root

theorem map_text_places :
    (places directory given environment).map Path.text = listing directory given environment := by
  rw [places, listing, List.map_append, List.map_map, List.map_singleton, text_default]
  rfl

end Places

/-! ## The search -/

/-- How a search ends in a state of the files, which is given by the checks whether anything is at
a path. -/
structure EndsInOrder (isThere : Path → Outcome Bool) (directory : String)
    (given : Option String) (environment : Environment) : Prop where
  found : ∀ path, findWhere isThere directory given environment = .ok path ↔
    IsFirst isThere (places directory given environment) path
  nothing : (∃ fault, findWhere isThere directory given environment = .error fault) ↔
    ∀ path ∈ places directory given environment, isThere path = .ok false
  fault : ∀ fault, findWhere isThere directory given environment = .error fault →
    fault = .noConfiguration (listing directory given environment) ∧
      fault.message = "localized_date.yaml not found. Searched: " ++
        ", ".intercalate (listing directory given environment) ++
        ". Provide an explicit path or configure LOCALIZED_DATE_CONFIG_PATH."
  /-- What is listed for a text is a text of the same path. -/
  legible : ∀ text ∈ namedTexts given environment,
    Path.ofText (Path.ofText text).text = Path.ofText text
  /-- Whatever is put at or taken from the paths behind the one that is found has no influence. -/
  undisturbed : ∀ (other : Path → Outcome Bool) (before after : List Path) (path : Path),
    findWhere isThere directory given environment = .ok path →
      places directory given environment = before ++ path :: after →
        (∀ seen ∈ before ++ [path], other seen = isThere seen) →
          findWhere other directory given environment = .ok path

theorem findWhere_eq (isThere : Path → Outcome Bool) (directory : String)
    (given : Option String) (environment : Environment) :
    findWhere isThere directory given environment =
      findAmong isThere (places directory given environment) := by
  rw [findWhere, candidates_eq_places]

theorem message_noConfiguration (searched : List String) :
    (Fault.noConfiguration searched).message =
      "localized_date.yaml not found. Searched: " ++ ", ".intercalate searched ++
        ". Provide an explicit path or configure LOCALIZED_DATE_CONFIG_PATH." := by
  have front : Location.fileName ++ " not found. Searched: " =
      "localized_date.yaml not found. Searched: " := by
    decide
  have back : ". Provide an explicit path or configure " ++ (Location.variableName ++ ".") =
      ". Provide an explicit path or configure LOCALIZED_DATE_CONFIG_PATH." := by
    decide
  rw [← front, ← back, ← String.append_assoc, ← String.append_assoc]
  rfl

/--
The first place at which something is is taken.  There is a fault exactly if
nothing is at any of them, and its message lists them in their order.  No place
behind the one that is taken has an influence.
-/
theorem findWhere_inOrder
    {isThere : Path → Outcome Bool} {directory : String} {given : Option String}
    {environment : Environment}
    (answered : ∀ path ∈ places directory given environment, ∃ there, isThere path = .ok there) :
    EndsInOrder isThere directory given environment := by
  constructor
  case found =>
    intro path
    rw [findWhere_eq]
    exact ⟨isFirst_of_findAmong answered, findAmong_of_isFirst⟩
  case nothing =>
    rw [findWhere_eq]
    constructor
    · rintro ⟨fault, failed⟩
      exact nothing_of_findAmong answered failed
    · intro nothing
      exact ⟨_, findAmong_of_nothing nothing⟩
  case fault =>
    intro fault failed
    rw [findWhere_eq] at failed
    rw [findAmong_of_nothing (nothing_of_findAmong answered failed), map_text_places] at failed
    rw [← Except.error.inj failed]
    exact ⟨rfl, message_noConfiguration _⟩
  case legible =>
    intro text _
    exact ofText_text_ofText text
  case undisturbed =>
    intro other before after path found split agree
    rw [findWhere_eq] at found ⊢
    exact findAmong_of_isFirst ((isFirst_of_findAmong answered found).of_agree split agree)

def gone : Path := ⟨.relative, ["gone.yaml"]⟩

def site : Path := ⟨.relative, ["conf", "site.yaml"]⟩

def siteEnvironment : Environment :=
  [("LOCALIZED_DATE_CONFIG_PATH", "conf//./site.yaml")]

/-- Files with a configuration where the environment says. -/
def siteFiles : Files :=
  (Files.empty "/srv/app").put site (.file .empty)

/-- These files, and a configuration below the working directory too. -/
def moreFiles : Files :=
  siteFiles.put ⟨.relative, ["config", "localized_date.yaml"]⟩ (.file .empty)

theorem places_site :
    places "/srv/app" (some "gone.yaml") siteEnvironment =
      [gone, site, ⟨.workingDirectory "/srv/app", ["config", "localized_date.yaml"]⟩] := by
  decide

/-- Nothing is at the given path, so the second place is taken, whatever is at the third. -/
theorem findWhere_inOrder_site :
    (∀ path ∈ places "/srv/app" (some "gone.yaml") siteEnvironment,
        ∃ there, moreFiles.exists? path = .ok there) ∧
      find moreFiles (some "gone.yaml") siteEnvironment = .ok site ∧
      find siteFiles (some "gone.yaml") siteEnvironment = .ok site := by
  have goneInMore : moreFiles.exists? gone = .ok false :=
    eq_ok_of_toOption (by decide +kernel)
  have siteInMore : moreFiles.exists? site = .ok true :=
    eq_ok_of_toOption (by decide +kernel)
  have answered : ∀ path ∈ places "/srv/app" (some "gone.yaml") siteEnvironment,
      ∃ there, moreFiles.exists? path = .ok there := by
    rw [places_site, List.forall_mem_cons, List.forall_mem_cons, List.forall_mem_singleton]
    exact ⟨⟨_, goneInMore⟩, ⟨_, siteInMore⟩, ⟨true, eq_ok_of_toOption (by decide +kernel)⟩⟩
  have inOrder := findWhere_inOrder answered
  have found : findWhere moreFiles.exists? "/srv/app" (some "gone.yaml") siteEnvironment =
      .ok site :=
    (inOrder.found site).mpr ⟨[gone], _, places_site, by simpa using goneInMore, siteInMore⟩
  have agree : ∀ seen ∈ [gone] ++ [site], siteFiles.exists? seen = moreFiles.exists? seen := by
    rw [List.singleton_append, List.forall_mem_cons, List.forall_mem_singleton, goneInMore,
      siteInMore]
    exact ⟨eq_ok_of_toOption (by decide +kernel), eq_ok_of_toOption (by decide +kernel)⟩
  exact ⟨answered, found, inOrder.undisturbed _ [gone] _ site found places_site agree⟩

end DateGetters.Proofs.SearchOrder
