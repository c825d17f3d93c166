import WebSupervisor.PageRuntime

/-! Addresses that are taken apart and put together again. The parts of a split
address contain none of the delimiters that end them, so that an https address made
of such parts splits into the same parts. -/

namespace WebSupervisor
open PageRuntime

/-- What may stand in a host. -/
def hostChar (c : Char) : Bool := c != '/' && c != '?' && c != '#'

/-- The characters that splitting removes. -/
def Dropped (c : Char) : Prop := c = '\t' ∨ c = '\r' ∨ c = '\n'

/-- The parts of an address can be told apart. -/
structure SplitResult.Clean (url : SplitResult) : Prop where
  host : ∀ c ∈ url.netloc.toList, hostChar c = true
  plain : ∀ c ∈ url.netloc.toList, (c == '[' || c == ']' || hidesDelimiter c) = false
  path : ∀ c ∈ url.path.toList, c ≠ '?' ∧ c ≠ '#'
  kept : ∀ c ∈ url.netloc.toList ++ url.path.toList, ¬ Dropped c
  rooted : url.netloc ≠ "" → ∀ c ∈ url.path.toList.head?, c = '/'

section Splitting
variable (text : List Char) {c : Char}

private theorem cutAt_subset {delimiter : Char} (member : c ∈ (cutAt delimiter text).1) : c ∈ text ∧ c ≠ delimiter := by
  refine ⟨(List.takeWhile_prefix _).subset member, ?_⟩
  have passed := List.mem_takeWhile_imp member
  simpa using passed

private theorem cutAt_head {delimiter : Char} (first : c ∈ (cutAt delimiter text).1.head?) : c ∈ text.head? := by
  cases text with
  | nil => cases first
  | cons head tail =>
    simp only [cutAt, List.takeWhile_cons] at first
    split at first
    · exact first
    · cases first

private theorem splitScheme_subset (member : c ∈ (splitScheme text).2) : c ∈ text := by
  unfold splitScheme at member
  dsimp only at member
  split at member
  · exact List.mem_of_mem_drop member
  · exact member

theorem splitNetloc_slashes (rest : List Char) :
    splitNetloc ('/' :: '/' :: rest) = (rest.takeWhile hostChar, rest.dropWhile hostChar) := by
  have whole := congrArg (List.drop (rest.takeWhile hostChar).length)
    (List.takeWhile_append_dropWhile (p := hostChar) (l := rest))
  rw [List.drop_left] at whole
  rw [whole]
  rfl

private theorem splitNetloc_cases :
    (∃ rest, text = '/' :: '/' :: rest) ∨ splitNetloc text = ([], text) := by
  by_cases slashes : ∃ rest, text = '/' :: '/' :: rest
  · exact Or.inl slashes
  · refine Or.inr ?_
    unfold splitNetloc
    split
    next rest => exact absurd ⟨rest, rfl⟩ slashes
    next => rfl

private theorem splitNetloc_host (member : c ∈ (splitNetloc text).1) : c ∈ text ∧ hostChar c = true := by
  rcases splitNetloc_cases text with ⟨rest, rfl⟩ | none
  · rw [splitNetloc_slashes] at member
    have inside := (List.takeWhile_prefix hostChar).subset member
    exact ⟨List.mem_cons_of_mem _ (List.mem_cons_of_mem _ inside), List.mem_takeWhile_imp member⟩
  · rw [none] at member
    cases member

private theorem splitNetloc_subset (member : c ∈ (splitNetloc text).2) : c ∈ text := by
  rcases splitNetloc_cases text with ⟨rest, rfl⟩ | none
  · rw [splitNetloc_slashes] at member
    exact List.mem_cons_of_mem _ (List.mem_cons_of_mem _ ((List.dropWhile_suffix hostChar).subset member))
  · rw [none] at member
    exact member

private theorem splitNetloc_rooted (host : (splitNetloc text).1 ≠ []) (first : c ∈ (splitNetloc text).2.head?) :
    hostChar c = false := by
  rcases splitNetloc_cases text with ⟨rest, rfl⟩ | none
  · rw [splitNetloc_slashes] at first
    have stopped := List.head?_dropWhile_not hostChar rest
    rw [Option.mem_def.mp first] at stopped
    exact stopped
  · rw [none] at host
    exact absurd rfl host

end Splitting

theorem urlsplit_clean {url : String} {parsed : SplitResult} (split : urlsplit url = some parsed) : parsed.Clean := by
  unfold urlsplit at split
  set text := (url.toList.dropWhile (·.toNat ≤ 0x20)).filter (fun c => c != '\t' && c != '\r' && c != '\n')
  have kept {c : Char} (member : c ∈ text) : ¬ Dropped c := by
    have passed := (List.mem_filter.mp member).2
    simpa [Dropped, not_or, and_assoc] using passed
  rcases schemeIs : splitScheme text with ⟨scheme, first⟩
  rcases hostIs : splitNetloc first with ⟨netloc, second⟩
  rcases cutIs : cutAt '#' second with ⟨third, fragment⟩
  rcases pathIs : cutAt '?' third with ⟨path, query⟩
  have inFirst {c : Char} (member : c ∈ first) : c ∈ text := splitScheme_subset _ (by rw [schemeIs]; exact member)
  have inHost {c : Char} (member : c ∈ netloc) := splitNetloc_host first (by rw [hostIs]; exact member)
  have inSecond {c : Char} (member : c ∈ second) : c ∈ first := splitNetloc_subset _ (by rw [hostIs]; exact member)
  have inThird {c : Char} (member : c ∈ third) := cutAt_subset second (by rw [cutIs]; exact member)
  have inPath {c : Char} (member : c ∈ path) := cutAt_subset third (by rw [pathIs]; exact member)
  simp only [schemeIs, hostIs, cutIs, pathIs] at split
  split at split
  next => cases split
  next clear =>
    cases split
    simp only [List.any_eq_true, not_exists, not_and, Bool.not_eq_true] at clear
    refine ⟨?_, ?_, ?_, ?_, ?_⟩ <;> simp only [String.toList_ofList]
    · exact fun c member => (inHost member).2
    · exact clear
    · exact fun c member => ⟨(inPath member).2, (inThird (inPath member).1).2⟩
    · intro c member
      rcases List.mem_append.mp member with member | member
      · exact kept (inFirst (inHost member).1)
      · exact kept (inFirst (inSecond (inThird (inPath member).1).1))
    · intro there c first'
      have known : netloc ≠ [] := fun none => there (by rw [none])
      have inside : c ∈ path := List.mem_of_mem_head? first'
      have third' : c ∈ third.head? := cutAt_head _ (by rw [pathIs]; exact first')
      have head : c ∈ second.head? := cutAt_head _ (by rw [cutIs]; exact third')
      have start := splitNetloc_rooted first (by rw [hostIs]; exact known) (by rw [hostIs]; exact head)
      have free := inPath inside
      have clean := inThird free.1
      simpa [hostChar, free.2, clean.2] using start

/-- The text of a fragment in an address. -/
def fragmentText (fragment : String) : List Char := if fragment = "" then [] else '#' :: fragment.toList

theorem urlunsplit_toList {parts : SplitResult} (secure : parts.scheme = "https") (hosted : parts.netloc ≠ "")
    (rooted : parts.path.toList.head? = some '/') (bare : parts.query = "") :
    (urlunsplit parts).toList =
      "https://".toList ++ (parts.netloc.toList ++ (parts.path.toList ++ fragmentText parts.fragment)) := by
  have path : (if parts.path ≠ "" ∧ parts.path.toList.head? ≠ some '/' then "/" ++ parts.path else parts.path) =
      parts.path := if_neg (fun given => given.2 rooted)
  have fragment : (if parts.fragment = "" then "" else "#" ++ parts.fragment).toList = fragmentText parts.fragment := by
    unfold fragmentText
    split <;> simp
  unfold urlunsplit
  rw [path, bare, secure]
  simp only [if_pos (Or.inl hosted), if_true, String.toList_append, fragment, List.append_assoc]
  rfl

private theorem splitScheme_https (rest : List Char) :
    splitScheme ("https://".toList ++ rest) = ("https".toList, '/' :: '/' :: rest) := by
  have start : ("https://".toList ++ rest).takeWhile (· != ':') = "https".toList := rfl
  unfold splitScheme
  dsimp only
  rw [start, if_pos]
  · rfl
  · refine ⟨?_, by decide, by decide⟩
    simp only [List.length_append]
    exact Nat.lt_of_lt_of_le (by decide : "https".toList.length < "https://".toList.length) (Nat.le_add_right _ _)

private theorem dropWhile_https (rest : List Char) :
    ("https://".toList ++ rest).dropWhile (fun c => decide (c.toNat ≤ 0x20)) = "https://".toList ++ rest := rfl

private theorem cutAt_fragment {path : List Char} (fragment : String) (clean : ∀ c ∈ path, c ≠ '#') :
    cutAt '#' (path ++ fragmentText fragment) = (path, fragment.toList) := by
  have inside : ∀ c ∈ path, (c != '#') = true := by simpa using clean
  have start : (path ++ fragmentText fragment).takeWhile (· != '#') = path := by
    rw [List.takeWhile_append_of_pos inside]
    unfold fragmentText
    split <;> simp
  unfold cutAt
  dsimp only
  rw [start, List.drop_append]
  unfold fragmentText
  split
  next empty => simp [empty]
  next => simp

private theorem cutAt_none {delimiter : Char} {path : List Char} (clean : ∀ c ∈ path, c ≠ delimiter) :
    cutAt delimiter path = (path, []) := by
  have inside : ∀ c ∈ path, (c != delimiter) = true := by simpa using clean
  unfold cutAt
  dsimp only
  rw [List.takeWhile_eq_self_iff.mpr inside, List.drop_eq_nil_of_le (Nat.le_succ _)]

/-- An https address of clean parts splits into them. -/
theorem urlsplit_urlunsplit {parts : SplitResult} (clean : parts.Clean) (secure : parts.scheme = "https")
    (hosted : parts.netloc ≠ "") (rooted : parts.path.toList.head? = some '/') (bare : parts.query = "")
    (kept : ∀ c ∈ parts.fragment.toList, ¬ Dropped c) : urlsplit (urlunsplit parts) = some parts := by
  have whole := urlunsplit_toList secure hosted rooted bare
  have tail : ∀ c ∈ fragmentText parts.fragment, ¬ Dropped c := by
    intro c member
    unfold fragmentText at member
    split at member
    · cases member
    · rcases List.mem_cons.mp member with rfl | inside
      · simp [Dropped]
      · exact kept c inside
  have text : ((urlunsplit parts).toList.dropWhile (·.toNat ≤ 0x20)).filter
      (fun c => c != '\t' && c != '\r' && c != '\n') =
        "https://".toList ++ (parts.netloc.toList ++ (parts.path.toList ++ fragmentText parts.fragment)) := by
    rw [whole, dropWhile_https]
    refine List.filter_eq_self.mpr (fun c member => ?_)
    have plain : ¬ Dropped c := by
      rw [← List.append_assoc, ← List.append_assoc, List.append_assoc "https://".toList] at member
      rcases List.mem_append.mp member with front | last
      · rcases List.mem_append.mp front with scheme | inside
        · have known : ∀ c ∈ "https://".toList, ¬ Dropped c := by simp [Dropped]
          exact known c scheme
        · exact clean.kept c inside
      · exact tail c last
    simpa [Dropped, and_assoc] using plain
  obtain ⟨below, path⟩ : ∃ below, parts.path.toList = '/' :: below := by
    cases found : parts.path.toList with
    | nil => rw [found] at rooted; cases rooted
    | cons head below =>
      rw [found] at rooted
      cases rooted
      exact ⟨below, rfl⟩
  have host : splitNetloc ('/' :: '/' :: (parts.netloc.toList ++ (parts.path.toList ++ fragmentText parts.fragment))) =
      (parts.netloc.toList, parts.path.toList ++ fragmentText parts.fragment) := by
    rw [splitNetloc_slashes, List.takeWhile_append_of_pos clean.host, List.dropWhile_append_of_pos clean.host, path]
    simp [hostChar]
  have plain : parts.netloc.toList.any (fun c => c == '[' || c == ']' || hidesDelimiter c) = false := by
    rw [List.any_eq_false]
    exact fun c member => by simp [clean.plain c member]
  have cut := cutAt_fragment parts.fragment (fun c member => (clean.path c member).2)
  have query : cutAt '?' parts.path.toList = (parts.path.toList, []) := cutAt_none (fun c member => (clean.path c member).1)
  unfold urlsplit
  simp only [text, splitScheme_https, host, plain, cut, query, if_false, Bool.false_eq_true, String.ofList_toList]
  cases parts
  subst secure bare
  rfl

section Ends
variable {text : String}

theorem strip_front (first : ∀ c ∈ text.toList.head?, isSpace c = false) : strip text = rstrip text := by
  have front : text.toList.dropWhile isSpace = text.toList := by
    cases found : text.toList with
    | nil => rfl
    | cons head tail =>
      have plain : isSpace head = false := first head (by rw [found]; rfl)
      simp [plain]
  unfold strip rstrip
  rw [front]

/-- White space at the end goes no further than a plain character. -/
theorem rstrip_after (front back : List Char) {c : Char} (plain : isSpace c = false) :
    rstrip (String.ofList (front ++ c :: back)) = String.ofList (front ++ c :: (rstrip (String.ofList back)).toList) := by
  unfold rstrip
  simp only [String.toList_ofList, List.reverse_append, List.reverse_cons, List.append_assoc, List.dropWhile_append]
  split
  next gone =>
    rw [List.isEmpty_iff] at gone
    simp [gone, plain]
  next => simp

theorem rstrip_subset (text : String) : (rstrip text).toList ⊆ text.toList := by
  unfold rstrip
  intro c member
  rw [String.toList_ofList, List.mem_reverse] at member
  exact List.mem_reverse.mp ((List.dropWhile_suffix _).subset member)

theorem rstrip_last (last : ∀ c ∈ text.toList.getLast?, isSpace c = false) : rstrip text = text := by
  have kept : text.toList.reverse.dropWhile isSpace = text.toList.reverse := by
    cases found : text.toList.reverse with
    | nil => rfl
    | cons head tail =>
      have plain : isSpace head = false := by
        refine last head ?_
        rw [← List.head?_reverse, found]
        rfl
      simp [plain]
  unfold rstrip
  rw [kept, List.reverse_reverse, String.ofList_toList]

end Ends

section Segments

private theorem splitOn_pieces {separator : Char} (text : List Char) :
    ∀ piece ∈ text.splitOn separator, separator ∉ piece ∧ piece ⊆ text := by
  induction hn : text.length using Nat.strong_induction_on generalizing text with
  | _ count ih =>
    by_cases inside : separator ∈ text
    · obtain ⟨front, back, rfl, free⟩ := List.eq_append_cons_of_mem inside
      rw [List.splitOn_append_cons_self_of_not_mem free]
      intro piece member
      rcases List.mem_cons.mp member with rfl | later
      · exact ⟨free, List.subset_append_left _ _⟩
      · have shorter : back.length < count := by simp at hn; omega
        obtain ⟨free, within⟩ := ih _ shorter back rfl piece later
        exact ⟨free, fun c inner => List.mem_append_right _ (List.mem_cons_of_mem _ (within inner))⟩
    · rw [List.splitOn_eq_singleton inside]
      intro piece member
      rw [List.mem_singleton.mp member]
      exact ⟨inside, List.Subset.refl _⟩

theorem mem_segments {url : SplitResult} {segment : String} (member : segment ∈ url.segments) :
    segment ≠ "" ∧ '/' ∉ segment.toList ∧ segment.toList ⊆ url.path.toList := by
  unfold SplitResult.segments at member
  obtain ⟨piece, inside, rfl⟩ := List.mem_map.mp member
  obtain ⟨inside, filled⟩ := List.mem_filter.mp inside
  obtain ⟨free, within⟩ := splitOn_pieces _ piece inside
  rw [String.toList_ofList]
  refine ⟨fun none => ?_, free, within⟩
  have empty : piece = [] := by simpa using congrArg String.toList none
  simp [empty] at filled

/-- The path of the named segments. -/
def pathOf (names : List String) : String := String.ofList (names.flatMap (fun name => '/' :: name.toList))

private theorem splitOn_names {names : List String} (free : ∀ name ∈ names, '/' ∉ name.toList) (front : List Char)
    (start : '/' ∉ front) :
    (front ++ names.flatMap (fun name => '/' :: name.toList)).splitOn '/' = front :: names.map String.toList := by
  induction names generalizing front with
  | nil => simp [List.splitOn_eq_singleton start]
  | cons name names ih =>
    rw [List.forall_mem_cons] at free
    rw [List.flatMap_cons, List.cons_append, List.splitOn_append_cons_self_of_not_mem start, ih free.2 _ free.1,
      List.map_cons]

theorem segments_pathOf (url : SplitResult) {names : List String}
    (free : ∀ name ∈ names, name ≠ "" ∧ '/' ∉ name.toList) :
    ({ url with path := pathOf names } : SplitResult).segments = names := by
  have filled : (names.map String.toList).filter (· ≠ []) = names.map String.toList := by
    refine List.filter_eq_self.mpr (fun piece member => ?_)
    obtain ⟨name, inside, rfl⟩ := List.mem_map.mp member
    simpa using (free name inside).1
  unfold SplitResult.segments pathOf
  have split := splitOn_names (fun name member => (free name member).2) [] (by simp)
  rw [List.nil_append] at split
  simp only [String.toList_ofList, split]
  rw [List.filter_cons_of_neg (by simp), filled, List.map_map]
  simp [Function.comp_def]

/-- The segment that a piece of a path is, if any. -/
def pieceOf (piece : List Char) : List String := if piece = [] then [] else [String.ofList piece]

/-- White space at the end of a path belongs to its last segment. -/
theorem segments_rstrip (url : SplitResult) (rooted : url.path.toList.head? = some '/') :
    ∃ front last, url.segments = front ++ pieceOf last ∧
      ({ url with path := rstrip url.path } : SplitResult).segments = front ++ pieceOf (rstrip (String.ofList last)).toList := by
  have slash : '/' ∈ url.path.toList.reverse := List.mem_reverse.mpr (List.mem_of_mem_head? rooted)
  obtain ⟨last, front, split, free⟩ := List.eq_append_cons_of_mem slash
  have path : url.path = String.ofList (front.reverse ++ '/' :: last.reverse) := by
    have whole := congrArg List.reverse split
    rw [List.reverse_reverse] at whole
    rw [← String.ofList_toList (s := url.path), whole]
    simp
  have cut (tail : List Char) (clean : '/' ∉ tail) :
      ({ url with path := String.ofList (front.reverse ++ '/' :: tail) } : SplitResult).segments =
        ((front.reverse.splitOn '/').filter (· ≠ [])).map String.ofList ++ pieceOf tail := by
    unfold SplitResult.segments pieceOf
    rw [String.toList_ofList, List.splitOn_append_cons_self, List.splitOn_eq_singleton clean, List.filter_append,
      List.map_append]
    congr 1
    split
    next empty => simp [empty]
    next filled => simp [filled]
  refine ⟨((front.reverse.splitOn '/').filter (· ≠ [])).map String.ofList, last.reverse, ?_, ?_⟩
  · rw [← cut _ (by simpa using free), ← path]
  · have trimmed := rstrip_after front.reverse last.reverse (show isSpace '/' = false by decide)
    have within := rstrip_subset (String.ofList last.reverse)
    rw [String.toList_ofList] at within
    rw [path, trimmed, cut _ (fun member => free (List.mem_reverse.mp (within member)))]

end Segments

end WebSupervisor
