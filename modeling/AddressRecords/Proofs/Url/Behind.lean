import Mathlib.Data.Option.Basic
import AddressRecords.Proofs.Url.Segments

/-!
What is read of a text that is written behind the last slash of a URL. The URL decides on the host
and on the segments that come first, and whatever the text is, a URL is read.
-/

namespace AddressRecords.Url

/-! Cleaning and cutting. -/

/-- What is left of the start of a text. -/
def tidyFront (text : List Char) : List Char :=
  (text.dropWhile (fun c => c.toNat ≤ 0x20)).filter
    (fun c => c ≠ '\t' && c ≠ '\n' && c ≠ '\r')

/-- What is left of the end of a text. -/
def tidyEnd (text : List Char) : List Char :=
  ((text.reverse.dropWhile (fun c => c.toNat ≤ 0x20)).reverse).filter
    (fun c => c ≠ '\t' && c ≠ '\n' && c ≠ '\r')

/-- Nothing is taken away across a slash. -/
theorem clean_slash (front rest : List Char) :
    clean (front ++ '/' :: rest) = tidyFront front ++ '/' :: tidyEnd rest := by
  have kept (text : List Char) : ('/' :: text).dropWhile (fun c => c.toNat ≤ 0x20) = '/' :: text :=
    rfl
  have through (text more : List Char) :
      (text ++ '/' :: more).dropWhile (fun c => c.toNat ≤ 0x20) =
        text.dropWhile (fun c => c.toNat ≤ 0x20) ++ '/' :: more := by
    rw [List.dropWhile_append, kept]
    split
    · rename_i empty
      rw [List.isEmpty_iff.mp empty, List.nil_append]
    · rfl
  rw [clean, Unicode.trimBoth, through, List.reverse_append, List.reverse_cons, List.append_assoc,
    List.singleton_append, through, List.reverse_append, List.reverse_cons, List.reverse_reverse,
    List.append_assoc, List.singleton_append, List.filter_append]
  rfl

theorem cut_slash {mark : Char} (other : mark ≠ '/') {front : List Char} (unmarked : mark ∉ front)
    (rest : List Char) :
    cut mark (front ++ '/' :: rest) = (front ++ '/' :: (cut mark rest).1, (cut mark rest).2) := by
  have clear : ∀ c ∈ front ++ ['/'], decide (c ≠ mark) = true := by
    intro c mem
    rw [decide_eq_true_eq]
    rintro rfl
    rcases List.mem_append.mp mem with before | slash
    · exact unmarked before
    · exact other (List.mem_singleton.mp slash)
  have shape : front ++ '/' :: rest = (front ++ ['/']) ++ rest := by simp
  rw [cut, cut, shape, List.span_eq_takeWhile_dropWhile, List.span_eq_takeWhile_dropWhile,
    List.takeWhile_append_of_pos clear, List.dropWhile_append_of_pos clear]
  simp

theorem cut_first {mark : Char} {before : List Char} (first : mark ∉ before)
    (after : List Char) : cut mark (before ++ mark :: after) = (before, some after) := by
  apply cut_append
  rintro c mem rfl
  exact first mem

theorem not_mem_of_cut {mark : Char} {text : List Char} (uncut : (cut mark text).2 = none) :
    mark ∉ text := by
  intro mem
  obtain ⟨before, after, rfl, first⟩ := List.eq_append_cons_of_mem mem
  rw [cut_first first] at uncut
  cases uncut

theorem cut_of_not_mem {mark : Char} {text : List Char} (unmarked : mark ∉ text) :
    cut mark text = (text, none) := by
  apply cut_of_forall
  rintro c mem rfl
  exact unmarked mem

/-! Schemes. -/

theorem scheme?_slash {front scheme rest : List Char}
    (read : scheme? (front ++ ['/']) = some (scheme, rest)) :
    ∃ behind, rest = behind ++ ['/'] ∧
      ∀ text, scheme? (front ++ '/' :: text) = some (scheme, behind ++ '/' :: text) := by
  by_cases mem : ':' ∈ front
  · obtain ⟨before, behind, rfl, first⟩ := List.eq_append_cons_of_mem mem
    have split (text : List Char) : cut ':' ((before ++ ':' :: behind) ++ '/' :: text) =
        (before, some (behind ++ '/' :: text)) := by
      rw [List.append_assoc]
      exact cut_first first _
    refine ⟨behind, ?_, ?_⟩
    · rw [scheme?, split] at read
      simp only [Option.bind_eq_bind, Option.bind_some, Option.bind_eq_some_iff] at read
      obtain ⟨-, -, -, -, same⟩ := read
      cases same
      rfl
    · intro text
      rw [scheme?, split] at read ⊢
      simp only [Option.bind_eq_bind, Option.bind_some, Option.bind_eq_some_iff] at read ⊢
      obtain ⟨_, letter, _, letters, same⟩ := read
      cases same
      exact ⟨_, letter, _, letters, rfl⟩
  · have uncut : cut ':' (front ++ ['/']) = (front ++ ['/'], none) := by
      apply cut_of_not_mem
      simp [mem]
    rw [scheme?, uncut] at read
    cases read

/-! Paths. -/

/-- The segments that come first do not depend on those behind them. -/
theorem addSegments_append (path texts more : List (List Char)) (some_more : more ≠ []) :
    addSegments false path (texts ++ more) =
      addSegments false (texts.foldl (addSegment false false) path) more := by
  induction texts generalizing path with
  | nil => rfl
  | cons text rest ih =>
    obtain ⟨next, others, shape⟩ :=
      List.exists_cons_of_ne_nil (List.append_ne_nil_of_right_ne_nil rest some_more)
    rw [List.cons_append, shape, addSegments, ← shape, ih, List.foldl_cons]
    intro empty
    cases empty

/-- Behind a host, the path up to its last slash leads to the rest of it. -/
theorem pathAfterHost_slash (front : List Char)
    (slashed : ∀ c ∈ front.head?, isSlash true c = true) : ∃ dir, ∀ text,
      pathAfterHost true (front ++ '/' :: text) =
        .segments (addSegments false dir (text.splitOnP (isSlash true))) := by
  cases front with
  | nil => exact ⟨[], fun text => rfl⟩
  | cons c rest =>
    refine ⟨(rest.splitOnP (isSlash true)).foldl (addSegment false false) [], ?_⟩
    intro text
    have slash : isSlash true '/' = true := rfl
    rw [List.cons_append, pathAfterHost, segmentsOf, List.splitOnP_append_cons _ _ slash,
      addSegments_append _ _ _ (List.splitOnP_ne_nil _ _)]

theorem authority?_nil {scheme : List Char} (special : isSpecial scheme = true) :
    authority? scheme [] = none := by
  have bare : dropCredentials [] = (false, []) := rfl
  rw [authority?, bare, special]
  rfl

/-- A host is read from what stands before the path. -/
theorem specialLocation?_slash {scheme front : List Char} {location : Location}
    (special : isSpecial scheme = true)
    (read : specialLocation? scheme (front ++ ['/']) = some location) :
    ∃ dir, ∀ text, specialLocation? scheme (front ++ '/' :: text) =
      some { location with
        path := .segments (addSegments false dir (text.splitOnP (isSlash true))) } := by
  by_cases empty : front.dropWhile (isSlash true) = []
  · have bare : (front ++ ['/']).dropWhile (isSlash true) = [] := by
      rw [List.dropWhile_append, empty]
      rfl
    have unread : specialLocation? scheme (front ++ ['/']) = none := by
      rw [specialLocation?, bare]
      exact congrArg (Option.bind · _) (authority?_nil special)
    rw [unread] at read
    cases read
  · -- The first slash behind the host is in the front, or it is the one that ends it.
    let host := (front.dropWhile (isSlash true)).takeWhile (!isSlash true ·)
    let path := (front.dropWhile (isSlash true)).dropWhile (!isSlash true ·)
    have slashed : ∀ c ∈ path.head?, isSlash true c = true := by
      intro c mem
      have ends := List.head?_dropWhile_not (!isSlash true ·) (front.dropWhile (isSlash true))
      rw [Option.mem_def.mp mem] at ends
      simpa using ends
    have spanned (text : List Char) :
        ((front ++ '/' :: text).dropWhile (isSlash true)).span (!isSlash true ·) =
          (host, path ++ '/' :: text) := by
      have whole : front.dropWhile (isSlash true) = host ++ path :=
        List.takeWhile_append_dropWhile.symm
      rw [List.dropWhile_append, if_neg (by simpa using empty), whole, List.append_assoc]
      apply Text.span_append
      · intro c mem
        exact List.all_eq_true.mp List.all_takeWhile c mem
      · intro c mem
        cases shape : path with
        | nil =>
          rw [shape] at mem
          cases mem
          rfl
        | cons first rest =>
          rw [shape] at mem slashed
          cases mem
          rw [slashed c rfl, Bool.not_true]
    obtain ⟨dir, shown⟩ := pathAfterHost_slash path slashed
    refine ⟨dir, ?_⟩
    intro text
    rw [specialLocation?, spanned] at read ⊢
    dsimp only at read ⊢
    rw [shown] at read ⊢
    simp only [Option.bind_eq_bind, Option.bind_eq_some_iff] at read ⊢
    obtain ⟨found, hosted, same⟩ := read
    cases same
    exact ⟨found, hosted, rfl⟩

/-! URLs. -/

theorem isSpecial_of_isHttp {url : Url} (http : url.isHttp) :
    isSpecial url.scheme = true ∧ isFile url.scheme = false := by
  rcases Bool.or_eq_true_iff.mp http with plain | secure
  · rw [beq_iff_eq.mp plain]
    decide
  · rw [beq_iff_eq.mp secure]
    decide

/-- Behind a URL of the web that ends with a slash, every text is read, up to the signs that start
a query and a fragment. -/
theorem ofText?_slash {front : String} {base : Url} (read : ofText? (front ++ "/") = some base)
    (http : base.isHttp) (unasked : base.query = none) (unmarked : base.fragment = none) :
    ∃ dir, base.path = .segments (dir ++ [[]]) ∧ ∀ text : String,
      let marked := cut '#' (tidyEnd text.toList)
      let asked := cut '?' marked.1
      ofText? (front ++ "/" ++ text) = some { base with
        path := .segments (addSegments false dir (asked.1.splitOnP (isSlash true)))
        query := asked.2.map (Percent.encode Percent.keepsSpecialQuery)
        fragment := marked.2.map (Percent.encode Percent.keepsFragment) } := by
  have cleaned (text : String) : clean (front ++ "/" ++ text).toList =
      tidyFront front.toList ++ '/' :: tidyEnd text.toList := by
    rw [String.toList_append, String.toList_append, List.append_assoc]
    exact clean_slash front.toList text.toList
  have alone : clean (front ++ "/").toList = tidyFront front.toList ++ ['/'] := by
    have whole := cleaned ""
    rwa [String.append_empty] at whole
  rw [ofText?, alone] at read
  simp only [Option.bind_eq_bind, Option.bind_eq_some_iff] at read
  obtain ⟨⟨scheme, rest⟩, schemed, location, located, same⟩ := read
  cases same
  have plain := not_mem_of_cut (Option.map_eq_none_iff.mp unmarked)
  rw [cut_of_not_mem plain] at unasked schemed
  have quiet := not_mem_of_cut (Option.map_eq_none_iff.mp unasked)
  rw [cut_of_not_mem quiet] at schemed
  rw [List.mem_append, not_or] at plain quiet
  obtain ⟨special, machine⟩ := isSpecial_of_isHttp http
  obtain ⟨behind, rfl, schemes⟩ := scheme?_slash schemed
  have web (text : List Char) : location? scheme text = specialLocation? scheme text := by
    rw [location?, machine, special]
    rfl
  rw [web] at located
  obtain ⟨dir, locations⟩ := specialLocation?_slash special located
  refine ⟨dir, ?_, ?_⟩
  · have bare := locations []
    rw [located] at bare
    exact congrArg Location.path (Option.some.inj bare)
  · intro text marked asked
    rw [ofText?, cleaned, cut_slash (by decide) plain.1]
    dsimp only
    rw [cut_slash (by decide) quiet.1]
    dsimp only
    rw [schemes]
    simp only [Option.bind_eq_bind, Option.bind_some]
    rw [web, locations]
    simp only [Option.bind_some, special, if_true]
    rfl

end AddressRecords.Url
