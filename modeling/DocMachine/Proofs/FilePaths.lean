import DocMachine.Proofs.AsciiUrls
import DocMachine.Proofs.Blanks
import DocMachine.Proofs.Escapes
import DocMachine.Proofs.Spans
import DocMachine.Standard

/-!
# Paths of files as URIs

The URI of a path is read as a URL without a host, whose path has the names of the path in escapes. None of
their characters means something in a URL, and none of the names is taken for a dot or for a drive. So the
path is found again, whatever its names are made of.

* `Url.Kept`: the segments that the path of a file URL keeps as they are.
* `Path.Canonical`: paths from the root in which no name is a dot or two.
* `Path.Named`: places to which names lead.
* `Files.Finds`: what a file operation finds from where it starts.

Results:
1. `Url.parse_file`: how the URI of a file is read.
2. `Files.canonicalize_finds`: a path that is followed to its place becomes canonical.
3. `Standard.targetUri_idempotent`: what a user points at becomes a URI that stands for itself.
4. `Provider.File.uriFor_faithful`: the URI of a canonical path names that path and no other one, and it
   stands for itself where a user points at it.
-/

namespace DocMachine

/-! ## Segments -/

namespace Url

theorem joinWith_eq (gap : Char) (parts : List (List Char)) :
    joinWith gap parts = [gap].intercalate parts := by
  induction parts with
  | nil => rfl
  | cons part rest ih =>
    cases rest with
    | nil => rw [joinWith, List.intercalate_singleton]
    | cons next rest =>
      rw [List.intercalate_cons_cons, ← ih, joinWith, List.append_assoc, List.singleton_append]
      exact nofun

variable {isCut : Char → Bool}

theorem splitAt_free {part : List Char} (free : ∀ c ∈ part, isCut c = false) :
    Url.splitAt isCut part = [part] := by
  induction part with
  | nil => rfl
  | cons c part ih =>
    obtain ⟨first, others⟩ := List.forall_mem_cons.mp free
    rw [Url.splitAt, first, ih others]
    rfl

theorem splitAt_append {part : List Char} (free : ∀ c ∈ part, isCut c = false) {gap : Char}
    (cut : isCut gap = true) (rest : List Char) :
    Url.splitAt isCut (part ++ gap :: rest) = part :: Url.splitAt isCut rest := by
  induction part with
  | nil => rw [List.nil_append, Url.splitAt, if_pos cut]
  | cons c part ih =>
    obtain ⟨first, others⟩ := List.forall_mem_cons.mp free
    rw [List.cons_append, Url.splitAt, first, ih others]
    rfl

/-- Parts that hold no cut are found again. -/
theorem splitAt_joinWith {gap : Char} (cut : isCut gap = true) {parts : List (List Char)}
    (filled : parts ≠ []) (free : ∀ part ∈ parts, ∀ c ∈ part, isCut c = false) :
    Url.splitAt isCut (joinWith gap parts) = parts := by
  induction parts with
  | nil => exact absurd rfl filled
  | cons part rest ih =>
    obtain ⟨first, others⟩ := List.forall_mem_cons.mp free
    cases rest with
    | nil => exact splitAt_free first
    | cons next rest =>
      rw [joinWith, splitAt_append first cut, ih (List.cons_ne_nil _ _) others]
      exact nofun

/-! ## Escaped segments -/

/-- Escaped text has no characters that are trimmed or escaped, that separate parts, or that mark a drive. -/
theorem isEscaped_inert {c : Char} (escaped : Text.isEscaped c = true) :
    0x20 < c.toNat ∧ staysInPath c = true ∧ isSlash true c = false ∧ isTail c = false ∧
      c ≠ ':' ∧ c ≠ '|' := by
  have each : ∀ n : Fin 128, Text.isEscaped (Char.ofNat n) = true →
      0x20 < (Char.ofNat n).toNat ∧ staysInPath (Char.ofNat n) = true ∧
        isSlash true (Char.ofNat n) = false ∧ isTail (Char.ofNat n) = false ∧
        Char.ofNat n ≠ ':' ∧ Char.ofNat n ≠ '|' := by
    decide +kernel
  have inert := each ⟨c.toNat, Text.isEscaped_lt escaped⟩
  rw [Char.ofNat_toNat] at inert
  exact inert escaped

theorem isDrive_escaped {segment : List Char} (escaped : ∀ c ∈ segment, Text.isEscaped c = true) :
    isDrive segment = false := by
  unfold isDrive
  split
  · next letter mark =>
    obtain ⟨-, -, -, -, noColon, noBar⟩ := isEscaped_inert (escaped mark (by simp))
    simp [noColon, noBar]
  · rfl

theorem toLower_eq {c d : Char} (lower : c.toLower = d) :
    c = d ∨ 0x41 ≤ c.toNat ∧ c.toNat + 0x20 = d.toNat := by
  unfold Char.toLower at lower
  split at lower
  · next upper =>
    subst lower
    have least : 0x41 ≤ c.val.toNat := upper.1
    have greatest : c.val.toNat ≤ 0x5a := upper.2
    have sum : (c.val + 0x20).toNat = c.val.toNat + 0x20 := by
      rw [UInt32.toNat_add]
      exact Nat.mod_eq_of_lt (Nat.lt_of_le_of_lt (Nat.add_le_add_right greatest 0x20) (by decide))
    exact .inr ⟨least, sum.symm⟩
  · exact .inl lower

/-- A dot, escaped or not, denotes the byte of a dot. -/
theorem percentBytes_dot {segment rest : List Char}
    (dotted : segment.map Char.toLower = '.' :: rest ∨ segment.map Char.toLower = '%' :: '2' :: 'e' :: rest) :
    ∃ tail, tail.map Char.toLower = rest ∧ Text.percentBytes segment = 0x2e :: Text.percentBytes tail := by
  -- Only a letter can differ from its lower case, so the `e` is the one character with two forms.
  have plain {c d : Char} (early : d.toNat < 0x61) (lower : c.toLower = d) : c = d :=
    (toLower_eq lower).resolve_right (by omega)
  rcases dotted with dot | escape
  · obtain ⟨c, tail, rfl, lower, same⟩ := List.map_eq_cons_iff.mp dot
    obtain rfl := plain (by decide) lower
    exact ⟨tail, same, Text.percentBytes_cons (by decide) tail⟩
  · obtain ⟨c, tail, rfl, lower, escape⟩ := List.map_eq_cons_iff.mp escape
    obtain ⟨c', tail, rfl, lower', escape⟩ := List.map_eq_cons_iff.mp escape
    obtain ⟨c'', tail, rfl, lower'', same⟩ := List.map_eq_cons_iff.mp escape
    obtain rfl := plain (by decide) lower
    obtain rfl := plain (by decide) lower'
    refine ⟨tail, same, ?_⟩
    rcases toLower_eq lower'' with rfl | ⟨-, upper⟩
    · rfl
    · obtain rfl : c'' = 'E' := by
        rw [← Char.ofNat_toNat c'', show c''.toNat = 69 from Nat.add_right_cancel upper]
      rfl

theorem isSingleDot_bytes {segment : List Char} (dot : isSingleDot segment = true) :
    Text.percentBytes segment = [0x2e] := by
  have dotted : segment.map Char.toLower = ['.'] ∨ segment.map Char.toLower = ['%', '2', 'e'] := by
    rw [isSingleDot, Bool.or_eq_true, decide_eq_true_eq, decide_eq_true_eq] at dot
    rcases dot with rfl | escape
    · exact .inl rfl
    · exact .inr escape
  obtain ⟨tail, none, bytes⟩ := percentBytes_dot dotted
  rw [bytes, List.map_eq_nil_iff.mp none, Text.percentBytes]

theorem isDoubleDot_bytes {segment : List Char} (dots : isDoubleDot segment = true) :
    Text.percentBytes segment = [0x2e, 0x2e] := by
  obtain ⟨rest, first, second⟩ : ∃ rest,
      (segment.map Char.toLower = '.' :: rest ∨ segment.map Char.toLower = '%' :: '2' :: 'e' :: rest) ∧
      (rest = ['.'] ∨ rest = ['%', '2', 'e']) := by
    rw [isDoubleDot, List.contains_iff_mem] at dots
    simp only [List.mem_cons, List.not_mem_nil, or_false] at dots
    rcases dots with plain | escapes | front | back
    · exact ⟨_, .inl plain, .inl rfl⟩
    · exact ⟨_, .inr escapes, .inr rfl⟩
    · exact ⟨_, .inr front, .inl rfl⟩
    · exact ⟨_, .inl back, .inr rfl⟩
  obtain ⟨tail, rfl, bytes⟩ := percentBytes_dot first
  obtain ⟨tail, none, bytes'⟩ := percentBytes_dot second
  rw [bytes, bytes', List.map_eq_nil_iff.mp none, Text.percentBytes]

/-- A segment in escapes that is no dot and no two. -/
structure Kept (segment : List Char) : Prop where
  escaped : ∀ c ∈ segment, Text.isEscaped c = true
  notDot : isSingleDot segment = false
  notDots : isDoubleDot segment = false

theorem Kept.append {segment : List Char} (kept : Kept segment) (before : List (List Char)) :
    append true before (Text.percentEncode staysInPath segment) = before ++ [segment] := by
  rw [Text.percentEncode_eq fun c among => (isEscaped_inert (kept.escaped c among)).2.1, Url.append,
    isDrive_escaped kept.escaped, Bool.and_false, if_neg Bool.false_ne_true]

/-- Such segments are followed as they stand. -/
theorem resolve_kept {segments : List (List Char)} (kept : ∀ segment ∈ segments, Kept segment)
    (before : List (List Char)) : resolve true before segments = before ++ segments := by
  induction segments generalizing before with
  | nil => rw [resolve, List.append_nil]
  | cons segment rest ih =>
    obtain ⟨first, others⟩ := List.forall_mem_cons.mp kept
    -- The last segment is followed by an equation of its own.
    cases rest with
    | nil =>
      rw [resolve, first.notDot, first.notDots, if_neg Bool.false_ne_true, if_neg Bool.false_ne_true,
        first.append]
    | cons next rest =>
      rw [resolve, first.notDot, first.notDots, if_neg Bool.false_ne_true, if_neg Bool.false_ne_true,
        first.append, ih others, List.append_assoc, List.singleton_append]
      exact List.cons_ne_nil next rest

/-! ## URLs of files -/

variable {segments : List (List Char)}

theorem rootedPath_kept (kept : ∀ segment ∈ segments, Kept segment) (filled : segments ≠ [])
    (single : (joinWith '/' segments).head? ≠ some '/') :
    rootedPath "file" ('/' :: joinWith '/' segments) = '/' :: joinWith '/' segments := by
  have parts : Url.splitAt (isSlash (isSpecial "file")) (joinWith '/' segments) = segments :=
    splitAt_joinWith (by decide) filled fun segment listed c among =>
      (isEscaped_inert ((kept segment listed).escaped c among)).2.2.1
  have rooted : (joinWith '/' segments).dropWhile (· = '/') = joinWith '/' segments :=
    Text.dropWhile_eq_of_head _ fun c first => decide_eq_false fun same => single (same ▸ first)
  show '/' :: (joinWith '/' (resolve true [] (Url.splitAt (isSlash (isSpecial "file"))
    (joinWith '/' segments)))).dropWhile (· = '/') = _
  rw [parts, resolve_kept kept, List.nil_append, rooted]

/-- How the URI of a file is read: there is no host, and the path is what comes after two slashes. -/
theorem parse_file (kept : ∀ segment ∈ segments, Kept segment) (filled : segments ≠ [])
    (single : (joinWith '/' segments).head? ≠ some '/') {text : String}
    (written : text.toList = "file://".toList ++ '/' :: joinWith '/' segments) :
    parse text = .ok
      { scheme := "file", host := none, port := none, path := String.ofList ('/' :: joinWith '/' segments),
        query := none, fragment := none } := by
  have inside : ∀ c ∈ '/' :: joinWith '/' segments, c = '/' ∨ Text.isEscaped c = true :=
    List.forall_mem_cons.mpr ⟨.inl rfl, forall_joinWith (.inl rfl) fun segment listed c among =>
      .inr ((kept segment listed).escaped c among)⟩
  have front : ("file://".toList.all fun c => decide (0x20 < c.toNat)) = true := by decide
  have shown : ∀ c ∈ text.toList, 0x20 < c.toNat := by
    rw [written]
    refine List.forall_mem_append.mpr
      ⟨fun c among => of_decide_eq_true (List.all_eq_true.mp front c among), fun c among => ?_⟩
    rcases inside c among with rfl | escaped
    · decide
    · exact (isEscaped_inert escaped).1
  have noTail : ∀ c ∈ '/' :: joinWith '/' segments, (!isTail c) = true := by
    intro c among
    rcases inside c among with rfl | escaped
    · decide
    · rw [(isEscaped_inert escaped).2.2.2.1]
      rfl
  have scheme : readScheme ("file://".toList ++ '/' :: joinWith '/' segments) =
      some ("file".toList, '/' :: '/' :: '/' :: joinWith '/' segments) := rfl
  have path : filePath none ('/' :: joinWith '/' segments) =
      { scheme := "file", host := none, port := none, path := String.ofList ('/' :: joinWith '/' segments),
        query := none, fragment := none } := by
    rw [filePath, span_all noTail]
    dsimp only
    rw [rootedPath_kept kept filled single]
    rfl
  rw [parse, clean_shown shown, written, scheme]
  -- Between the second and the third slash stands an empty host.
  show readFile ('/' :: '/' :: '/' :: joinWith '/' segments) = _
  rw [← path]
  rfl

end Url

/-! ## Canonical paths -/

/-- A path from the root that does not start with two slashes, and in which no name is a dot or two. -/
structure Path.Canonical (path : String) : Prop where
  absolute : Path.isAbsolute path = true
  single : path.toList.tail.head? ≠ some '/'
  notDot : ∀ name ∈ path.toList.splitOn '/', name ≠ ['.'] ∧ name ≠ ['.', '.']

/-- What leads from a directory to something that stands in it. -/
structure Path.IsName (name : String) : Prop where
  filled : name ≠ ""
  noSlash : '/' ∉ name.toList
  notDot : name ≠ "." ∧ name ≠ ".."

/-- Such names lead to the place. -/
def Path.Named (place : Place) : Prop :=
  ∀ name ∈ place, Path.IsName name

theorem splitOn_root {chars : List Char} (rest : List Char) (rooted : chars = '/' :: rest) :
    chars.splitOn '/' = [] :: rest.splitOn '/' := by
  rw [rooted, List.splitOn_cons_eq_if_modifyHead, if_pos (beq_self_eq_true _)]

/-- The parts between cuts hold no cut. -/
theorem splitOn_free (chars : List Char) : ∀ part ∈ chars.splitOn '/', '/' ∉ part := by
  induction chars with
  | nil => simp
  | cons c rest ih =>
    rw [List.splitOn_cons_eq_if_modifyHead]
    split
    · exact List.forall_mem_cons.mpr ⟨List.not_mem_nil, ih⟩
    · next other =>
      have apart : '/' ≠ c := fun same => other (beq_iff_eq.mpr same.symm)
      obtain ⟨first, others, parts⟩ := List.exists_cons_of_ne_nil (List.splitOn_ne_nil '/' rest)
      rw [parts] at ih ⊢
      obtain ⟨free, later⟩ := List.forall_mem_cons.mp ih
      exact List.forall_mem_cons.mpr ⟨List.not_mem_cons_of_ne_of_not_mem apart free, later⟩

/-- The names of a path are no empty ones, and hold no slash. -/
theorem Path.names_plain (path : String) :
    ∀ name ∈ Path.names path, name ≠ "" ∧ '/' ∉ name.toList := by
  have parts : ∀ name ∈ ((path.toList.splitOn '/').map String.ofList).filter fun name => !name.isEmpty,
      name ≠ "" ∧ '/' ∉ name.toList := by
    intro name among
    obtain ⟨listed, filled⟩ := List.mem_filter.mp among
    obtain ⟨part, within, rfl⟩ := List.mem_map.mp listed
    refine ⟨?_, ?_⟩
    · intro none
      rw [none] at filled
      exact absurd filled (by decide)
    · rw [String.toList_ofList]
      exact splitOn_free path.toList part within
  unfold Path.names
  dsimp only
  split
  · exact List.forall_mem_append.mpr ⟨parts, List.forall_mem_singleton.mpr (by decide)⟩
  · exact parts

namespace Files

/-- The path of a place is canonical. -/
theorem pathOf_canonical {place : Place} (named : Path.Named place) :
    Path.Canonical (pathOf place) := by
  have rooted : (pathOf place).toList = '/' :: ['/'].intercalate (place.map String.toList) := by
    rw [pathOf, String.toList_append, String.toList_intercalate]
    rfl
  refine ⟨by rw [Path.isAbsolute, rooted]; rfl, ?_, ?_⟩
  · rw [rooted, List.tail_cons]
    cases place with
    | nil => nofun
    | cons name rest =>
      have isName := named name List.mem_cons_self
      obtain ⟨c, more, chars⟩ : ∃ c more, name.toList = c :: more :=
        List.exists_cons_of_ne_nil fun none => isName.filled (String.toList_eq_nil_iff.mp none)
      have first : (['/'].intercalate ((name :: rest).map String.toList)).head? = some c := by
        cases rest <;> rw [List.map_cons, chars] <;> rfl
      rw [first]
      rintro ⟨⟩
      exact isName.noSlash (chars ▸ List.mem_cons_self)
  · rw [splitOn_root _ rooted]
    refine List.forall_mem_cons.mpr ⟨by decide, ?_⟩
    cases place with
    | nil => simp
    | cons name rest =>
      rw [List.splitOn_intercalate]
      · refine List.forall_mem_map.mpr fun name listed => ?_
        have notDot := (named name listed).notDot
        exact notDot.imp (fun apart same => apart (String.toList_inj.mp same)) fun apart same =>
          apart (String.toList_inj.mp same)
      · exact List.forall_mem_map.mpr fun name listed => (named name listed).noSlash
      · exact List.cons_ne_nil _ _

/-! ### What file operations find -/

/-- Where relative paths start at `current`, which stays so, what is found is of this kind. -/
def Finds (current : Place) {α : Type} (kind : α → Prop) (action : Files α) : Prop :=
  ∀ tree : FileTree, tree.current = current →
    (action.run.run tree).2.current = current ∧ ∀ a, (action.run.run tree).1 = .ok a → kind a

namespace Finds

variable {current : Place} {α β : Type} {kind : α → Prop} {kind' : β → Prop}

theorem pure {a : α} (ofKind : kind a) : Finds current kind (pure a) := by
  rintro tree rfl
  exact ⟨rfl, fun _ same => by cases same; exact ofKind⟩

theorem throw (fault : FileFault) : Finds current kind (throw fault) := by
  rintro tree rfl
  exact ⟨rfl, fun _ same => by cases same⟩

theorem bind {first : Files α} {rest : α → Files β} (finds : Finds current kind first)
    (each : ∀ a, kind a → Finds current kind' (rest a)) : Finds current kind' (first >>= rest) := by
  intro tree starts
  obtain ⟨stays, found⟩ := finds tree starts
  have step : (first >>= rest).run.run tree =
    StateT.run (ExceptT.bindCont rest (first.run.run tree).1) (first.run.run tree).2 := rfl
  rw [step]
  cases result : (first.run.run tree).1 with
  | error fault => exact ⟨stays, fun _ same => by cases same⟩
  | ok a => exact each a (found a result) _ stays

/-- What comes after a check. -/
theorem checked {check : Prop} [Decidable check] {fault : FileFault} {rest : PUnit → Files α}
    (finds : ¬ check → Finds current kind (rest ⟨⟩)) :
    Finds current kind (if check then MonadExcept.throw fault >>= rest else rest ⟨⟩) := by
  split
  · have never : Finds current (fun _ => False) (MonadExcept.throw fault : Files PUnit) := throw fault
    exact .bind never fun _ reached => reached.elim
  · next passed => exact finds passed

theorem get : Finds current (fun tree : FileTree => tree.current = current) get := by
  rintro tree rfl
  exact ⟨rfl, fun _ same => by cases same; rfl⟩

theorem set {tree : FileTree} (starts : tree.current = current) :
    Finds current (fun _ : PUnit => True) (set tree) :=
  fun _ _ => ⟨starts, fun _ _ => trivial⟩

/-- Whatever stands at a place. -/
theorem look (place : Place) : Finds current (fun _ => True) (look place) := by
  unfold Files.look
  refine .bind .get fun tree starts => ?_
  split
  · exact .pure trivial
  · split
    · exact .bind (.set starts) fun _ _ => .pure trivial
    · exact .pure trivial

end Finds

/-- Names are followed from place to place. -/
theorem follow_finds {current place : Place} {names : List String}
    (named : Path.Named place) (plain : ∀ name ∈ names, name ≠ "" ∧ '/' ∉ name.toList) :
    Finds current Path.Named (follow place names) := by
  induction names generalizing place with
  | nil => exact .pure named
  | cons name rest ih =>
    obtain ⟨first, others⟩ := List.forall_mem_cons.mp plain
    unfold follow
    refine .bind (.look place) fun found _ => ?_
    split
    · exact .throw _
    · exact .throw _
    · refine .checked fun _ => ?_
      split
      · exact ih named others
      · next notDot =>
        split
        · exact ih (fun name among => named name (List.dropLast_subset _ among)) others
        · next notDots =>
          have isName : Path.IsName name := ⟨first.1, first.2, notDot, notDots⟩
          exact ih (List.forall_mem_append.mpr ⟨named, List.forall_mem_singleton.mpr isName⟩) others

theorem origin_finds {current : Place} (named : Path.Named current) (path : String) :
    Finds current Path.Named (origin path) := by
  refine .checked fun _ => .checked fun _ => .checked fun _ => ?_
  split
  · exact .pure (List.forall_mem_nil _)
  · refine .bind .get fun tree starts => .pure ?_
    rwa [starts]

/-- A path that is followed to its place becomes canonical. -/
theorem canonicalize_finds {current : Place} (named : Path.Named current) (path : String) :
    Finds current (fun place => Path.Canonical (pathOf place)) (canonicalize path) := by
  have located : Finds current Path.Named (locate path) :=
    .bind (origin_finds named path) fun _ starts => follow_finds starts (Path.names_plain path)
  refine .bind located fun place named => .bind (.look place) fun found _ => ?_
  split
  · exact .pure (pathOf_canonical named)
  · exact .throw _

end Files

namespace Provider.File

/-! ### Encoded segments -/

/-- An encoded segment denotes no other one. -/
theorem eq_of_bytes {segment : List Char} {name : String}
    (bytes : Text.percentBytes (encodeSegment segment) = Text.toUtf8 name) : segment = name.toList := by
  rw [encodeSegment, Text.percentBytes_percentEncode (by decide)] at bytes
  rw [← Text.toUtf8_injective bytes, String.toList_ofList]

theorem encodeSegment_kept {segment : List Char} (notDot : segment ≠ ['.'] ∧ segment ≠ ['.', '.']) :
    Url.Kept (encodeSegment segment) := by
  have dotBytes : Text.toUtf8 "." = [0x2e] ∧ Text.toUtf8 ".." = [0x2e, 0x2e] := by
    rw [Text.toUtf8_eq_flatMap, Text.toUtf8_eq_flatMap]
    decide
  refine ⟨Text.isEscaped_encode segment, ?_, ?_⟩ <;> rw [← Bool.not_eq_true]
  · exact fun dot => notDot.1 (eq_of_bytes ((Url.isSingleDot_bytes dot).trans dotBytes.1.symm))
  · exact fun dots => notDot.2 (eq_of_bytes ((Url.isDoubleDot_bytes dots).trans dotBytes.2.symm))

/-- Encoded segments with slashes between them denote the segments with slashes between them. -/
theorem percentBytes_joinWith (segments : List (List Char)) :
    Text.percentBytes (Url.joinWith '/' (segments.map encodeSegment)) =
      Text.toUtf8 (String.ofList (Url.joinWith '/' segments)) := by
  rw [Text.toUtf8_eq_flatMap, String.toList_ofList]
  induction segments with
  | nil => rfl
  | cons segment rest ih =>
    cases rest with
    | nil =>
      show Text.percentBytes (encodeSegment segment) = _
      rw [encodeSegment, Text.percentBytes_percentEncode (by decide), Text.toUtf8_eq_flatMap,
        String.toList_ofList]
      rfl
    | cons next rest =>
      show Text.percentBytes (Text.percentEncode Text.isUnreserved segment ++
          '/' :: Url.joinWith '/' ((next :: rest).map encodeSegment)) =
        (segment ++ '/' :: Url.joinWith '/' (next :: rest)).flatMap String.utf8EncodeChar
      rw [Text.percentBytes_encode (by decide), Text.percentBytes_cons (by decide), ih,
        List.flatMap_append, List.flatMap_cons]

/-! ### Whole paths -/

variable {path : String}

/-- The names of a canonical path, and how its URI is written: each of them is encoded. -/
theorem uriFor_segments (canonical : Path.Canonical path) : ∃ segments, segments ≠ [] ∧
    path.toList = '/' :: Url.joinWith '/' segments ∧
    (uriFor path).toList = "file://".toList ++ '/' :: Url.joinWith '/' (segments.map encodeSegment) ∧
    (∀ segment ∈ segments, segment ≠ ['.'] ∧ segment ≠ ['.', '.']) := by
  obtain ⟨rest, rooted⟩ : ∃ rest, path.toList = '/' :: rest :=
    List.head?_eq_some_iff.mp (of_decide_eq_true canonical.absolute)
  have split := splitOn_root rest rooted
  have notDot := canonical.notDot
  rw [split] at notDot
  refine ⟨rest.splitOn '/', List.splitOn_ne_nil _ _, ?_, ?_, (List.forall_mem_cons.mp notDot).2⟩
  · rw [Url.joinWith_eq, List.intercalate_splitOn, rooted]
  · obtain ⟨first, others, parts⟩ := List.exists_cons_of_ne_nil (List.splitOn_ne_nil '/' rest)
    have texts : (String.toList ∘ fun segment => String.ofList (encodeSegment segment)) = encodeSegment :=
      funext fun _ => String.toList_ofList
    have none : encodeSegment [] = [] := rfl
    rw [uriFor, split, parts, String.toList_append, String.toList_append, String.toList_intercalate,
      List.map_map, texts, Url.joinWith_eq, List.map_cons, List.map_cons, List.intercalate_cons_cons, none]
    rfl

theorem encodeSegment_eq_nil {segment : List Char} (none : encodeSegment segment = []) : segment = [] := by
  have bytes : Text.percentBytes (encodeSegment segment) = Text.toUtf8 "" := by
    rw [none, Text.toUtf8_eq_flatMap]
    rfl
  exact eq_of_bytes bytes

/-- If segments do not start with a slash, their encodings do not either. -/
theorem encodeSegment_single {segments : List (List Char)}
    (single : (Url.joinWith '/' segments).head? ≠ some '/') :
    (Url.joinWith '/' (segments.map encodeSegment)).head? ≠ some '/' := by
  cases segments with
  | nil => nofun
  | cons segment rest =>
    -- A slash could come first only after an empty segment.
    cases encoded : encodeSegment segment with
    | nil =>
      obtain rfl := encodeSegment_eq_nil encoded
      cases rest with
      | nil => nofun
      | cons next rest => exact absurd rfl single
    | cons c more =>
      have among : c ∈ encodeSegment segment := encoded ▸ List.mem_cons_self
      have escaped : Text.isEscaped c = true := Text.isEscaped_encode segment c among
      have first : (Url.joinWith '/' ((segment :: rest).map encodeSegment)).head? = some c := by
        cases rest <;> rw [List.map_cons, encoded] <;> rfl
      rw [first]
      rintro ⟨⟩
      exact absurd escaped (by decide)

example : uriFor "/a b/100%/é" = "file:///a%20b/100%25/%C3%A9" := by decide +kernel

/-- How the URI of a canonical path is read. Its path denotes the path. -/
theorem parse_uriFor (canonical : Path.Canonical path) : ∃ encoded,
    Url.parse (uriFor path) = .ok
      { scheme := "file", host := none, port := none, path := encoded, query := none, fragment := none } ∧
    Text.percentDecode encoded = .ok path := by
  obtain ⟨segments, filled, rooted, written, notDot⟩ := uriFor_segments canonical
  have kept : ∀ segment ∈ segments.map encodeSegment, Url.Kept segment :=
    List.forall_mem_map.mpr fun segment listed => encodeSegment_kept (notDot segment listed)
  have single := canonical.single
  rw [rooted, List.tail_cons] at single
  have filled' : segments.map encodeSegment ≠ [] := by rwa [Ne, List.map_eq_nil_iff]
  refine ⟨_, Url.parse_file kept filled' (encodeSegment_single single) written, ?_⟩
  rw [Text.percentDecode, String.toList_ofList, Text.percentBytes_cons (by decide), percentBytes_joinWith,
    ← String.ofList_toList (s := path), rooted]
  have bytes : Text.toUtf8 (String.ofList ('/' :: Url.joinWith '/' segments)) =
      String.utf8EncodeChar '/' ++ Text.toUtf8 (String.ofList (Url.joinWith '/' segments)) := by
    rw [Text.toUtf8_eq_flatMap, Text.toUtf8_eq_flatMap, String.toList_ofList, String.toList_ofList,
      List.flatMap_cons]
  rw [← bytes, Text.ofUtf8_toUtf8]

/-- The URI of a canonical path names that path. -/
theorem pathOf_uriFor (canonical : Path.Canonical path) : pathOf (uriFor path) = .ok path := by
  obtain ⟨encoded, parsed, decoded⟩ := parse_uriFor canonical
  have filled : path.isEmpty = false := by
    rw [← Bool.not_eq_true, String.isEmpty_iff]
    rintro rfl
    exact absurd canonical.absolute (by decide)
  rw [pathOf, Resource.parseUri, parsed]
  simp only [Except.mapError, bind, Except.bind]
  rw [decoded]
  simp only [filled]
  rfl

end Provider.File

/-! ## What a user points at -/

namespace Standard

/-- A URI stands for itself, and no file is looked at. -/
theorem targetUri_parsed {target : String} {url : Url} (parsed : Url.parse target = .ok url)
    (long : 1 < url.scheme.length) (tree : FileTree) :
    (targetUri target).run tree = (.ok target, tree) := by
  rw [targetUri, parsed]
  exact congrArg (StateT.run · tree) (if_pos (decide_eq_true long))

theorem targetUri_uriFor {path : String} (canonical : Path.Canonical path) (tree : FileTree) :
    (targetUri (Provider.File.uriFor path)).run tree = (.ok (Provider.File.uriFor path), tree) := by
  obtain ⟨encoded, parsed, -⟩ := Provider.File.parse_uriFor canonical
  exact targetUri_parsed parsed (show 1 < "file".length by decide) tree

/-- Anything else is followed to its place. -/
theorem targetUri_path {target : String}
    (noUri : ∀ url, Url.parse target = .ok url → ¬ 1 < url.scheme.length) (tree : FileTree) :
    (targetUri target).run tree =
      (((Files.canonicalize target).run.run tree).1
          |>.map (fun place => Provider.File.uriFor (Files.pathOf place))
          |>.mapError (fun cause => .provider target ("cannot open: " ++ cause.message)),
        ((Files.canonicalize target).run.run tree).2) := by
  rw [targetUri]
  cases parsed : Url.parse target with
  | error fault =>
    rw [if_neg Bool.false_ne_true, StateT.run_bind]
    rcases (Files.canonicalize target).run.run tree with ⟨cause | place, left⟩ <;> rfl
  | ok url =>
    have short : ¬ decide (1 < url.scheme.length) = true := fun long =>
      noUri url parsed (of_decide_eq_true long)
    dsimp only
    rw [if_neg short, StateT.run_bind]
    rcases (Files.canonicalize target).run.run tree with ⟨cause | place, left⟩ <;> rfl

/-- What a user points at becomes a URI that stands for itself. -/
theorem targetUri_idempotent {tree left : FileTree} {target uri : String}
    (named : Path.Named tree.current)
    (found : (targetUri target).run tree = (.ok uri, left)) (later : FileTree) :
    (targetUri uri).run later = (.ok uri, later) := by
  by_cases isUri : ∃ url, Url.parse target = .ok url ∧ 1 < url.scheme.length
  · obtain ⟨url, parsed, long⟩ := isUri
    rw [targetUri_parsed parsed long] at found
    cases found
    exact targetUri_parsed parsed long later
  · rw [targetUri_path fun url parsed long => isUri ⟨url, parsed, long⟩] at found
    cases followed : ((Files.canonicalize target).run.run tree).1 with
    | error cause =>
      rw [followed] at found
      cases found
    | ok place =>
      rw [followed] at found
      cases found
      exact targetUri_uriFor ((Files.canonicalize_finds named target tree rfl).2 place followed) later

end Standard

/-- The URI of a canonical path names that path, and that of no other one is the same. It stands for itself
where a user points at it. -/
theorem Provider.File.uriFor_faithful {path : String} (canonical : Path.Canonical path) :
    pathOf (uriFor path) = .ok path ∧
      (∀ other, Path.Canonical other → uriFor other = uriFor path → other = path) ∧
      ∀ tree, (Standard.targetUri (uriFor path)).run tree = (.ok (uriFor path), tree) := by
  refine ⟨pathOf_uriFor canonical, fun other canonical' same => ?_, Standard.targetUri_uriFor canonical⟩
  have named := pathOf_uriFor canonical'
  rw [same, pathOf_uriFor canonical] at named
  cases named
  rfl

/-- Names like those of drives, hosts and dots, with escapes and marks of URLs in them. -/
theorem Provider.File.uriFor_faithful_marks :
    let path := "/C:/%2e/.%2E/localhost/100% a?b#c:\\d|e/\t\x01\x7f/é😀~"
    Path.Canonical path ∧ pathOf (uriFor path) = .ok path ∧
      (∀ other, Path.Canonical other → uriFor other = uriFor path → other = path) ∧
      ∀ tree, (Standard.targetUri (uriFor path)).run tree = (.ok (uriFor path), tree) := by
  intro path
  have canonical : Path.Canonical path := ⟨by decide, by decide, by decide⟩
  exact ⟨canonical, uriFor_faithful canonical⟩

end DocMachine
