import DocMachine.Proofs.Escapes
import DocMachine.Resource
import Mathlib

/-!
# URLs in ASCII

Of a text that is no address of the web and of no file, a URL keeps ASCII only: all other characters are
escaped, byte by byte.

* `Text.IsAscii`: all characters are ASCII.
* `Url.InAscii`: host and path of a URL are ASCII.
* `Url.Yields`: a reading fails, or its URL is in ASCII or has a special scheme.

Results:
1. `Text.percentEncode_isAscii`: escapes are ASCII.
2. `Url.parse_yields`: all texts are read so.
3. `Resource.keyOf_isAscii`: the name of a variable that a URI addresses is ASCII.
-/

namespace DocMachine

namespace Text

/-- All characters are ASCII. -/
def IsAscii (chars : List Char) : Prop := ∀ c ∈ chars, c.toNat < 0x80

namespace IsAscii

variable {chars other : List Char}

theorem nil : IsAscii [] := fun _ among => by cases among

theorem cons {c : Char} (first : c.toNat < 0x80) (rest : IsAscii chars) : IsAscii (c :: chars) :=
  List.forall_mem_cons.mpr ⟨first, rest⟩

theorem append (front : IsAscii chars) (back : IsAscii other) : IsAscii (chars ++ other) :=
  List.forall_mem_append.mpr ⟨front, back⟩

end IsAscii

theorem escapeByte_isAscii (b : UInt8) : IsAscii (escapeByte b) :=
  fun c among => isEscaped_lt (isEscaped_escapeByte b c among)

/-- Escapes are ASCII, and so is what stays if only ASCII stays. -/
theorem percentEncode_isAscii {stays : Char → Bool} (only : ∀ c, stays c = true → c.toNat < 0x80)
    (chars : List Char) : IsAscii (percentEncode stays chars) := by
  intro c among
  obtain ⟨source, -, among⟩ := List.mem_flatMap.mp among
  split at among
  · next kept =>
    rw [List.mem_singleton.mp among]
    exact only source kept
  · obtain ⟨b, -, among⟩ := List.mem_flatMap.mp among
    exact escapeByte_isAscii b c among

end Text

namespace Url

open Text

theorem isPrintableAscii_lt {c : Char} (printable : isPrintableAscii c = true) : c.toNat < 0x80 := by
  rw [isPrintableAscii, Bool.and_eq_true, decide_eq_true_eq, decide_eq_true_eq] at printable
  exact Nat.lt_trans printable.2 (by decide)

theorem staysInPath_lt {c : Char} (stays : staysInPath c = true) : c.toNat < 0x80 := by
  unfold staysInPath at stays
  simp only [Bool.and_eq_true] at stays
  exact isPrintableAscii_lt stays.1.1.1

theorem forall_joinWith {kind : Char → Prop} {gap : Char} (ofKind : kind gap) {parts : List (List Char)}
    (each : ∀ part ∈ parts, ∀ c ∈ part, kind c) : ∀ c ∈ joinWith gap parts, kind c := by
  induction parts with
  | nil => exact List.forall_mem_nil kind
  | cons part rest ih =>
    obtain ⟨first, others⟩ := List.forall_mem_cons.mp each
    cases rest with
    | nil => exact first
    | cons next rest => exact List.forall_mem_append.mpr ⟨first, List.forall_mem_cons.mpr ⟨ofKind, ih others⟩⟩

theorem joinWith_isAscii {gap : Char} (ascii : gap.toNat < 0x80) {parts : List (List Char)}
    (each : ∀ part ∈ parts, IsAscii part) : IsAscii (joinWith gap parts) :=
  forall_joinWith ascii each

/-! ## Paths -/

/-- Followed to their end, the segments of a path are escaped if those are that were there before. -/
theorem resolve_isAscii {resolved segments : List (List Char)}
    (before : ∀ part ∈ resolved, IsAscii part) :
    ∀ part ∈ resolve false resolved segments, IsAscii part := by
  have fewer {resolved : List (List Char)} (before : ∀ part ∈ resolved, IsAscii part) :
      ∀ part ∈ shorten false resolved, IsAscii part := by
    intro part among
    refine before part ?_
    unfold shorten at among
    split at among
    · cases among
    · exact List.dropLast_subset _ among
  have more {resolved : List (List Char)} (before : ∀ part ∈ resolved, IsAscii part) {last : List Char}
      (ascii : IsAscii last) : ∀ part ∈ resolved ++ [last], IsAscii part :=
    List.forall_mem_append.mpr ⟨before, List.forall_mem_singleton.mpr ascii⟩
  induction segments generalizing resolved with
  | nil => exact before
  | cons segment rest ih =>
    have encoded := percentEncode_isAscii (fun _ => staysInPath_lt) segment
    cases rest with
    | nil =>
      rw [resolve]
      split
      · exact more (fewer before) .nil
      · split
        · exact more before .nil
        · exact more before encoded
    | cons next rest =>
      rw [resolve]
      · split
        · exact ih (fewer before)
        · split
          · exact ih before
          · exact ih (more before encoded)
      · exact nofun

theorem ne_file {scheme : String} (plain : isSpecial scheme = false) : scheme ≠ "file" := by
  rintro rfl
  exact absurd plain (by decide)

theorem rootedPath_isAscii {scheme : String} (other : scheme ≠ "file") (body : List Char) :
    IsAscii (rootedPath scheme body) := by
  unfold rootedPath
  simp only [other, decide_false, if_false]
  exact .cons (by decide) (joinWith_isAscii (by decide) (resolve_isAscii fun _ among => by cases among))

/-! ## Hosts -/

theorem toDigits_isAscii (n : Nat) : IsAscii (Nat.toDigits 16 n) := by
  have digit : ∀ n < 16, n.digitChar.toNat < 0x80 := by decide
  induction n using Nat.strongRecOn with
  | ind n ih =>
    rw [Nat.toDigits_eq_if (by decide)]
    split
    · next small => exact .cons (digit n small) .nil
    · next large =>
      have shorter : n / 16 < n := Nat.div_lt_self (by omega) (by decide)
      exact (ih _ shorter).append (.cons (digit _ (Nat.mod_lt n (by decide))) .nil)

theorem ipv6Text_isAscii (words : List Nat) : IsAscii (ipv6Text words) := by
  have hex (part : List Nat) : IsAscii (joinWith ':' (part.map (Nat.toDigits 16))) := by
    refine joinWith_isAscii (by decide) fun digits among => ?_
    obtain ⟨n, -, rfl⟩ := List.mem_map.mp among
    exact toDigits_isAscii n
  have colons : IsAscii "::".toList := .cons (by decide) (.cons (by decide) .nil)
  unfold ipv6Text
  split
  · exact hex words
  · exact ((hex _).append colons).append (hex _)

theorem bracketed_isAscii {chars host : List Char} (read : bracketed chars = .ok host) : IsAscii host := by
  unfold bracketed at read
  split at read
  · split at read
    · cases read
      exact .cons (by decide) ((ipv6Text_isAscii _).append (.cons (by decide) .nil))
    · cases read
  · cases read

theorem plainHost_isAscii {chars host : List Char} (read : plainHost chars = .ok host) : IsAscii host := by
  unfold plainHost at read
  split at read
  · exact bracketed_isAscii read
  · split at read
    · cases read
    · cases read
      exact percentEncode_isAscii (fun _ => isPrintableAscii_lt) chars

/-! ## Whole URLs -/

/-- Host and path of the URL are ASCII. -/
structure InAscii (url : Url) : Prop where
  host : ∀ host ∈ url.host, IsAscii host.toList
  path : IsAscii url.path.toList

/-- A reading fails, or yields a URL in ASCII if its scheme is not special. -/
def Yields (reading : Except UrlFault Url) : Prop :=
  ∀ url, reading = .ok url → isSpecial url.scheme = false → InAscii url

namespace Yields

variable {url : Url} {scheme : String}

theorem error (fault : UrlFault) : Yields (.error fault) := fun _ same => by cases same

theorem ok (ascii : isSpecial url.scheme = false → InAscii url) : Yields (.ok url) := by
  intro _ same
  cases same
  exact ascii

/-- The last stage of each reading: query and fragment come to a URL with its path. -/
theorem withTail (ascii : isSpecial url.scheme = false → InAscii url) (tail : List Char) :
    Yields (.ok (url.withTail tail)) :=
  ok fun plain => ⟨(ascii plain).host, (ascii plain).path⟩

theorem special (same : url.scheme = scheme) (special : isSpecial scheme = true) : Yields (.ok url) :=
  ok fun plain => by rw [same, special] at plain; cases plain

theorem bind {α : Type} {first : Except UrlFault α} {rest : α → Except UrlFault Url}
    (each : ∀ a, first = .ok a → Yields (rest a)) : Yields (first >>= rest) := by
  cases first with
  | error fault => exact error fault
  | ok a => exact each a rfl

end Yields

/-- A URL without a host is in ASCII if its path is. -/
theorem inAscii_path {url : Url} {path : List Char} (none : url.host = none)
    (same : url.path = String.ofList path) (ascii : IsAscii path) : InAscii url := by
  refine ⟨fun host among => ?_, ?_⟩
  · rw [none] at among
    cases among
  · rwa [same, String.toList_ofList]

theorem flatPath_yields (scheme : String) (chars : List Char) : Yields (.ok (flatPath scheme chars)) :=
  .withTail (fun _ => inAscii_path rfl rfl (percentEncode_isAscii (fun _ => isPrintableAscii_lt) _)) _

theorem hostless_yields (scheme : String) (chars : List Char) : Yields (.ok (hostless scheme chars)) :=
  .withTail (fun plain => inAscii_path rfl rfl (rootedPath_isAscii (ne_file plain) _)) _

theorem filePath_yields (host : Option String) (chars : List Char) : Yields (.ok (filePath host chars)) :=
  .special rfl rfl

theorem readFile_yields (chars : List Char) : Yields (readFile chars) := by
  unfold readFile
  split
  · split
    · dsimp only
      split
      · exact filePath_yields _ _
      · exact .bind fun _ _ => filePath_yields _ _
    · exact filePath_yields _ _
  · exact filePath_yields _ _

/-- What comes after two slashes is read in stages: each is given what the stage before has found. -/
theorem readAuthority_yields (scheme : String) (chars : List Char) : Yields (readAuthority scheme chars) := by
  unfold readAuthority
  extract_lets special withUser
  have users (found : List Char × List Char) : Yields (withUser found) := by
    dsimp -zeta only [withUser]
    extract_lets withHost
    have hosts {host : List Char} (ascii : isSpecial scheme = false → IsAscii host) :
        Yields (withHost host) := by
      dsimp -zeta only [withHost]
      extract_lets withPort
      have ports (found : Option Nat × List Char) : Yields (withPort found) := by
        dsimp -zeta only [withPort]
        extract_lets path url finish
        have inPath (plain : isSpecial scheme = false) : IsAscii path := by
          dsimp only [path]
          split
          · exact .nil
          · exact rootedPath_isAscii (ne_file plain) _
        have inHost (plain : isSpecial scheme = false) : ∀ kept ∈ url.host, IsAscii kept.toList := by
          intro kept among
          dsimp only [url] at among
          split at among
          · cases among
          · cases among
            rw [String.toList_ofList]
            exact ascii plain
        have ends : Yields (finish ()) :=
          .withTail (fun plain => ⟨inHost plain, by rw [String.toList_ofList]; exact inPath plain⟩) _
        split
        · exact .bind fun _ _ => ends
        · exact ends
      split
      · split
        · exact .bind fun _ _ => ports _
        · exact .bind fun _ _ => ports _
      · exact .bind fun _ _ => ports _
    split
    · next web =>
      have web : isSpecial scheme = true := web
      exact .bind fun _ _ => hosts fun plain => by rw [web] at plain; cases plain
    · exact .bind fun _ read => hosts fun _ => plainHost_isAscii read
  split
  · exact .bind fun _ _ => users _
  · split
    · split
      · exact .bind fun _ _ => users _
      · exact .bind fun _ _ => users _
    · exact .bind fun _ _ => users _
  · exact .bind fun _ _ => users _

/-- All texts are read so, whichever form they have after the scheme. -/
theorem parse_yields (text : String) : Yields (parse text) := by
  unfold parse
  split
  · exact .error _
  · dsimp only
    split
    · exact readFile_yields _
    · split
      · exact readAuthority_yields _ _
      · split
        · exact readAuthority_yields _ _
        · exact hostless_yields _ _
        · exact flatPath_yields _ _

end Url

namespace Resource

/-- The name of a variable that a URI addresses is ASCII, unless the scheme is special. -/
theorem keyOf_isAscii {uri key : String} {url : Url} (parsed : Url.parse uri = .ok url)
    (plain : Url.isSpecial url.scheme = false) (named : keyOf uri = .ok key) : Text.IsAscii key.toList := by
  have ascii := Url.parse_yields uri url parsed plain
  rw [keyOf, parseUri, parsed] at named
  have chosen : Text.IsAscii (if url.path.isEmpty then url.host.getD "" else url.path).toList := by
    split
    · cases found : url.host with
      | none => exact .nil
      | some host => exact ascii.host host found
    · exact ascii.path
  dsimp only [Except.mapError, bind, Except.bind] at named
  generalize (if url.path.isEmpty then url.host.getD "" else url.path) = found at named chosen
  split at named
  · cases named
  · cases named
    exact chosen

end Resource

end DocMachine
