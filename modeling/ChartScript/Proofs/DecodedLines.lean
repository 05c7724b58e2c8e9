import ChartScript.LoadedFile
import ChartScript.Proofs.NumberedLines
import ChartScript.Proofs.Outcomes

/-!
# Lines of a file before and after decoding

A line feed is one byte in every encoding that a file is read in, and no other bytes come to be
one.  In UTF-8 a character that is still pending cannot go on with it, so the line feed ends that
character as invalid and is then taken by itself: what is wrong with a line stays in the line.  So
a file can be cut into lines before it is decoded, and the lines have the same numbers.
-/

namespace ChartScript

theorem eq_of_ofNat_eq_lineFeed {n : Nat} (hfeed : Char.ofNat n = '\n') : n = 0x0A := by
  unfold Char.ofNat at hfeed
  by_cases hvalid : n.isValidChar
  · rw [dif_pos hvalid] at hfeed
    exact congrArg Char.toNat hfeed
  · rw [dif_neg hvalid] at hfeed
    cases hfeed

/-! ## UTF-8 -/

namespace Utf8

/-- The next byte of a pending character is none of ASCII, and what it comes to is no character of
ASCII either. -/
structure Pending.Wide (pending : Pending) : Prop where
  low_ge : 0x80 ≤ pending.low
  bits_ge : 2 ≤ pending.bits * 64 + (pending.low - 0x80)
  last_ge : pending.owed = 1 → 0x80 ≤ pending.bits * 64 + (pending.low - 0x80)

theorem wide_of_opening {byte : Nat} {pending : Pending}
    (hopening : opening byte = .begins pending) : pending.Wide := by
  unfold opening at hopening
  split at hopening
  · cases hopening
  split at hopening
  · cases hopening
  split at hopening
  · obtain rfl := Opening.begins.inj hopening
    constructor <;> simp only <;> omega
  split at hopening
  · obtain rfl := Opening.begins.inj hopening
    constructor <;> simp only <;> split <;> omega
  split at hopening
  · obtain rfl := Opening.begins.inj hopening
    constructor <;> simp only <;> split <;> omega
  · cases hopening

theorem eq_of_opening_lineFeed {byte : Nat} (hopening : opening byte = .whole '\n') :
    byte = 0x0A := by
  by_cases hascii : byte < 0x80
  · unfold opening at hopening
    rw [if_pos hascii] at hopening
    exact eq_of_ofNat_eq_lineFeed (Opening.whole.inj hopening)
  · unfold opening at hopening
    rw [if_neg hascii] at hopening
    repeat' split at hopening
    all_goals cases hopening

namespace Progress

def Wide (progress : Progress) : Prop :=
  ∀ pending, progress.pending? = some pending → pending.Wide

theorem wide_start : start.Wide := nofun

theorem wide_takeFresh (units : List (Option Char)) (byte : Nat) : (takeFresh units byte).Wide := by
  unfold takeFresh
  split
  · exact nofun
  · next pending hopening =>
    intro other hother
    obtain rfl := Option.some.inj hother
    exact wide_of_opening hopening
  · exact nofun

theorem Wide.take {progress : Progress} (hwide : progress.Wide) (byte : UInt8) :
    (progress.take byte).Wide := by
  unfold Progress.take
  split
  · exact wide_takeFresh _ _
  · next pending hpending =>
    have hbits := (hwide pending hpending).bits_ge
    split
    · split
      · exact nofun
      · intro other hother
        obtain rfl := Option.some.inj hother
        constructor <;> simp only <;> omega
    · exact wide_takeFresh _ _

theorem Wide.foldl {progress : Progress} (hwide : progress.Wide) (bytes : List UInt8) :
    (bytes.foldl Progress.take progress).Wide := by
  induction bytes generalizing progress with
  | nil => exact hwide
  | cons byte bytes ih => exact ih (hwide.take byte)

/-! ### Units that are finished already -/

/-- The same progress after some earlier units, the latest first. -/
def after (earlier : List (Option Char)) (progress : Progress) : Progress :=
  { progress with units := progress.units ++ earlier }

variable {progress : Progress} {earlier : List (Option Char)}

theorem takeFresh_append (units : List (Option Char)) (byte : Nat) :
    takeFresh (units ++ earlier) byte = (takeFresh units byte).after earlier := by
  unfold takeFresh after
  split <;> rfl

theorem take_after (byte : UInt8) :
    (progress.after earlier).take byte = (progress.take byte).after earlier := by
  unfold Progress.take
  simp only [after]
  split
  · exact takeFresh_append _ _
  · split
    · split <;> rfl
    · exact takeFresh_append (none :: progress.units) _

theorem foldl_take_after (bytes : List UInt8) :
    bytes.foldl Progress.take (progress.after earlier) =
      (bytes.foldl Progress.take progress).after earlier := by
  induction bytes generalizing progress with
  | nil => rfl
  | cons byte bytes ih => rw [List.foldl_cons, List.foldl_cons, take_after, ih]

theorem finish_after : (progress.after earlier).finish = earlier.reverse ++ progress.finish := by
  unfold finish
  simp only [after]
  split
  · rw [List.reverse_append]
  · rw [List.reverse_cons, List.reverse_cons, List.reverse_append, List.append_assoc]

/-- A line feed ends what is pending, and nothing is pending behind it. -/
theorem Wide.take_lineFeed (hwide : progress.Wide) :
    progress.take 0x0A = start.after (some '\n' :: progress.finish.reverse) := by
  have hfresh : ∀ units, takeFresh units 0x0A = ⟨some '\n' :: units, none⟩ := fun _ => rfl
  unfold Progress.take finish
  split
  · rw [List.reverse_reverse]
    exact hfresh progress.units
  · next pending hpending =>
    have hlow := (hwide pending hpending).low_ge
    have hrefused : ¬ (pending.low ≤ (0x0A : UInt8).toNat ∧
        (0x0A : UInt8).toNat ≤ pending.high) := by
      rintro ⟨hge, _⟩
      exact absurd (Nat.le_trans hlow hge) (by decide)
    rw [if_neg hrefused, List.reverse_reverse]
    exact hfresh (none :: progress.units)

/-! ### Bytes that are no line feed -/

theorem lineFeed_not_mem_takeFresh
    {units : List (Option Char)} (hunits : some '\n' ∉ units) {byte : Nat} (hbyte : byte ≠ 0x0A) :
    some '\n' ∉ (takeFresh units byte).units := by
  unfold takeFresh
  split
  · next c hopening =>
    rw [List.mem_cons, not_or]
    refine ⟨?_, hunits⟩
    intro heq
    obtain rfl := Option.some.inj heq
    exact hbyte (eq_of_opening_lineFeed hopening)
  · exact hunits
  · rw [List.mem_cons, not_or]
    exact ⟨nofun, hunits⟩

theorem Wide.lineFeed_not_mem_take
    (hwide : progress.Wide) (hunits : some '\n' ∉ progress.units) {byte : UInt8}
    (hbyte : byte ≠ 0x0A) :
    some '\n' ∉ (progress.take byte).units := by
  have hcode : byte.toNat ≠ 0x0A := fun heq => hbyte (UInt8.toNat_inj.1 heq)
  unfold Progress.take
  split
  · exact lineFeed_not_mem_takeFresh hunits hcode
  · next pending hpending =>
    split
    · split
      · next hbounds howed =>
        have hlast := (hwide pending hpending).last_ge howed
        rw [List.mem_cons, not_or]
        refine ⟨?_, hunits⟩
        intro heq
        have hbits := eq_of_ofNat_eq_lineFeed (Option.some.inj heq).symm
        omega
      · exact hunits
    · apply lineFeed_not_mem_takeFresh _ hcode
      rw [List.mem_cons, not_or]
      exact ⟨nofun, hunits⟩

theorem Wide.lineFeed_not_mem_foldl
    (hwide : progress.Wide) (hunits : some '\n' ∉ progress.units) {bytes : List UInt8}
    (hbytes : 0x0A ∉ bytes) :
    some '\n' ∉ (bytes.foldl Progress.take progress).units := by
  induction bytes generalizing progress with
  | nil => exact hunits
  | cons byte bytes ih =>
      rw [List.mem_cons, not_or] at hbytes
      exact ih (hwide.take byte) (hwide.lineFeed_not_mem_take hunits (Ne.symm hbytes.1)) hbytes.2

theorem lineFeed_mem_finish_iff : some '\n' ∈ progress.finish ↔ some '\n' ∈ progress.units := by
  unfold finish
  split
  · exact List.mem_reverse
  · rw [List.mem_reverse, List.mem_cons, or_iff_right nofun]

end Progress

/-- The bytes on both sides of a line feed are decoded each by themselves. -/
theorem units_append_lineFeed (front back : List UInt8) :
    units (front ++ 0x0A :: back) = units front ++ some '\n' :: units back := by
  unfold units
  rw [List.foldl_append, List.foldl_cons, (Progress.wide_start.foldl front).take_lineFeed,
    Progress.foldl_take_after, Progress.finish_after, List.reverse_cons, List.reverse_reverse,
    List.append_assoc, List.singleton_append]

theorem lineFeed_not_mem_units {bytes : List UInt8} (hbytes : 0x0A ∉ bytes) :
    some '\n' ∉ units bytes := by
  unfold units
  rw [Progress.lineFeed_mem_finish_iff]
  exact Progress.wide_start.lineFeed_not_mem_foldl List.not_mem_nil hbytes

theorem decode_append_lineFeed (front back : List UInt8) :
    decode (front ++ 0x0A :: back) = decode front ++ '\n' :: decode back := by
  unfold decode
  rw [units_append_lineFeed, List.map_append, List.map_cons]
  rfl

theorem lineFeed_not_mem_decode {bytes : List UInt8} (hbytes : 0x0A ∉ bytes) :
    '\n' ∉ decode bytes := by
  intro hmem
  obtain ⟨unit, hunit, hchar⟩ := List.mem_map.1 hmem
  cases unit with
  | none =>
      have hreplacement : replacement ≠ '\n' := by decide
      exact hreplacement hchar
  | some c =>
      obtain rfl : c = '\n' := hchar
      exact lineFeed_not_mem_units hbytes hunit

theorem eq_decode_of_decode? {bytes : List UInt8} {text : Text}
    (hread : decode? bytes = some text) :
    text = decode bytes := by
  unfold decode? at hread
  unfold decode
  rw [mapM_id_eq_some_iff.1 hread, List.map_map]
  exact (List.map_id text).symm

end Utf8

/-! ## All encodings -/

namespace SingleByte

section

variable {table : Table} (htable : ∀ entry ∈ table, entry.1 ≠ 0x0A ∧ entry.2 ≠ 0x0A)

include htable

theorem decodeByte_eq_lineFeed_iff {byte : UInt8} :
    decodeByte table byte = '\n' ↔ byte = 0x0A := by
  have hbyte : byte = 0x0A ↔ byte.toNat = 0x0A := UInt8.toNat_inj.symm
  rw [hbyte]
  unfold decodeByte
  cases hlookup : table.lookup byte.toNat with
  | none =>
      rw [Option.getD_none]
      constructor
      · exact eq_of_ofNat_eq_lineFeed
      · intro heq
        rw [heq]
  | some code =>
      obtain ⟨_, _, rfl, _⟩ := List.lookup_eq_some_iff.1 hlookup
      obtain ⟨hbyte, hcode⟩ := htable (byte.toNat, code) (by simp)
      rw [Option.getD_some]
      constructor
      · exact fun hfeed => absurd (eq_of_ofNat_eq_lineFeed hfeed) hcode
      · exact fun heq => absurd heq hbyte

theorem decode_append_lineFeed (front back : List UInt8) :
    decode table (front ++ 0x0A :: back) = decode table front ++ '\n' :: decode table back := by
  unfold decode
  rw [List.map_append, List.map_cons, (decodeByte_eq_lineFeed_iff htable).2 rfl]

theorem lineFeed_not_mem_decode {bytes : List UInt8} (hbytes : 0x0A ∉ bytes) :
    '\n' ∉ decode table bytes := by
  intro hmem
  obtain ⟨byte, hbyte, hfeed⟩ := List.mem_map.1 hmem
  rw [decodeByte_eq_lineFeed_iff htable] at hfeed
  exact hbytes (hfeed ▸ hbyte)

end

theorem lineFeed_free_latin9 : ∀ entry ∈ latin9, entry.1 ≠ 0x0A ∧ entry.2 ≠ 0x0A := by decide

theorem lineFeed_free_windows1252 : ∀ entry ∈ windows1252, entry.1 ≠ 0x0A ∧ entry.2 ≠ 0x0A := by
  decide

end SingleByte

namespace Encoding

theorem decodeUnmarked_append_lineFeed (encoding : Encoding) (front back : List UInt8) :
    encoding.decodeUnmarked (front ++ 0x0A :: back) =
      encoding.decodeUnmarked front ++ '\n' :: encoding.decodeUnmarked back := by
  cases encoding with
  | utf8 => exact Utf8.decode_append_lineFeed front back
  | latin9 => exact SingleByte.decode_append_lineFeed SingleByte.lineFeed_free_latin9 front back
  | windows1252 =>
      exact SingleByte.decode_append_lineFeed SingleByte.lineFeed_free_windows1252 front back

theorem lineFeed_not_mem_decodeUnmarked (encoding : Encoding) {bytes : List UInt8}
    (hbytes : 0x0A ∉ bytes) :
    '\n' ∉ encoding.decodeUnmarked bytes := by
  cases encoding with
  | utf8 => exact Utf8.lineFeed_not_mem_decode hbytes
  | latin9 => exact SingleByte.lineFeed_not_mem_decode SingleByte.lineFeed_free_latin9 hbytes
  | windows1252 =>
      exact SingleByte.lineFeed_not_mem_decode SingleByte.lineFeed_free_windows1252 hbytes

theorem splitOn_decodeUnmarked (encoding : Encoding) (bytes : List UInt8) :
    (encoding.decodeUnmarked bytes).splitOn '\n' =
      (bytes.splitOn 0x0A).map encoding.decodeUnmarked := by
  induction bytes using pieces_induction (0x0A : UInt8) with
  | last piece hpiece =>
      rw [List.splitOn_eq_singleton hpiece,
        List.splitOn_eq_singleton (encoding.lineFeed_not_mem_decodeUnmarked hpiece)]
      rfl
  | more piece rest hpiece ih =>
      rw [List.splitOn_append_cons_self_of_not_mem hpiece, decodeUnmarked_append_lineFeed,
        List.splitOn_append_cons_self_of_not_mem (encoding.lineFeed_not_mem_decodeUnmarked hpiece),
        ih, List.map_cons]

theorem nthPiece_decodeUnmarked_iff {encoding : Encoding} {bytes : List UInt8} {number : Nat}
    {text : Text} :
    NthPiece '\n' (encoding.decodeUnmarked bytes) number text ↔
      ∃ piece, NthPiece 0x0A bytes number piece ∧ encoding.decodeUnmarked piece = text := by
  simp only [nthPiece_iff]
  rw [splitOn_decodeUnmarked, List.zipIdx_map, List.mem_map]
  constructor
  · rintro ⟨⟨piece, index⟩, hpiece, heq⟩
    obtain ⟨rfl, rfl⟩ := Prod.mk.inj heq
    exact ⟨piece, hpiece, rfl⟩
  · rintro ⟨piece, hpiece, rfl⟩
    exact ⟨(piece, number), hpiece, rfl⟩

/-! ## Byte order marks -/

/-- The bytes begin with the byte order mark of UTF-8 or of UTF-16. -/
def HasMark (bytes : List UInt8) : Prop :=
  [0xEF, 0xBB, 0xBF] <+: bytes ∨ [0xFF, 0xFE] <+: bytes ∨ [0xFE, 0xFF] <+: bytes

instance : DecidablePred HasMark := fun bytes => by
  unfold HasMark
  infer_instance

theorem decode_of_not_hasMark (encoding : Encoding) {bytes : List UInt8}
    (hbytes : ¬ HasMark bytes) :
    encoding.decode bytes = encoding.decodeUnmarked bytes := by
  unfold HasMark at hbytes
  rw [not_or, not_or] at hbytes
  obtain ⟨hutf8, hlittle, hbig⟩ := hbytes
  unfold decode
  split
  · rfl
  · split
    · next rest => exact absurd ⟨rest, rfl⟩ hutf8
    · next rest => exact absurd ⟨rest, rfl⟩ hlittle
    · next rest => exact absurd ⟨rest, rfl⟩ hbig
    · rfl

theorem HasMark.of_append {front back : List UInt8} (hmark : HasMark (front ++ 0x0A :: back)) :
    HasMark front := by
  unfold HasMark at hmark ⊢
  refine hmark.imp ?_ (Or.imp ?_ ?_)
  all_goals exact Text.begins_of_begins_append_cons (by decide) front back

end Encoding

namespace LoadedFile

open Encoding (HasMark)

/-- Valid UTF-8 is read like any other file, in the encoding that the file is reported in. -/
theorem lines_ofBytes (charset : Text) {bytes : List UInt8} (hbytes : ¬ HasMark bytes) :
    (ofBytes charset bytes).lines =
      SourceLine.ofContent
        ((Encoding.ofName (ofBytes charset bytes).encoding).decodeUnmarked bytes) := by
  unfold ofBytes
  cases hread : Utf8.decode? bytes with
  | some content =>
      have hname : Encoding.ofName Encoding.utf8Name = .utf8 := by decide
      simp only [ofSource, hname]
      rw [Utf8.eq_decode_of_decode? hread]
      rfl
  | none =>
      simp only
      rw [Encoding.decode_of_not_hasMark _ hbytes]

/-- Bytes that begin with no byte order mark are decoded line by line, in every encoding.  So the
lines of a file stem from the lines of its bytes, and their numbers count the line feeds among the
bytes in front of them. -/
theorem decode_lineByLine {bytes : List UInt8} (hbytes : ¬ HasMark bytes) :
    (∀ name rest, (Encoding.ofName name).decode (bytes ++ 0x0A :: rest) =
        (Encoding.ofName name).decode bytes ++
          '\n' :: (Encoding.ofName name).decodeUnmarked rest) ∧
      ∀ charset number text, ⟨number, text⟩ ∈ (ofBytes charset bytes).lines ↔
        ∃ piece, NthPiece 0x0A bytes number piece ∧
          SourceLine.Keeps
            ((Encoding.ofName (ofBytes charset bytes).encoding).decodeUnmarked piece) text := by
  constructor
  · intro name rest
    rw [Encoding.decode_of_not_hasMark _ hbytes,
      Encoding.decode_of_not_hasMark _ (mt HasMark.of_append hbytes),
      Encoding.decodeUnmarked_append_lineFeed]
  · intro charset number text
    rw [lines_ofBytes charset hbytes, SourceLine.mem_ofContent_iff]
    simp only [Encoding.nthPiece_decodeUnmarked_iff]
    constructor
    · rintro ⟨_, ⟨piece, hpiece, rfl⟩, hkeeps⟩
      exact ⟨piece, hpiece, hkeeps⟩
    · rintro ⟨piece, hpiece, hkeeps⟩
      exact ⟨_, ⟨piece, hpiece, rfl⟩, hkeeps⟩

/-- Two characters that line feeds cut short, and a comment. -/
def cutShort : List UInt8 := [0x41, 0xE2, 0x82, 0x0A, 0x23, 0xF0, 0x9F, 0x0A, 0xC9, 0x42]

theorem decode_lineByLine_cutShort :
    ¬ HasMark cutShort ∧
      (Encoding.ofName "latin1".toList).decode (cutShort ++ [0x0A, 0xEF, 0xBB, 0xBF]) =
          (Encoding.ofName "latin1".toList).decode cutShort ++ "\nï»¿".toList ∧
        (ofBytes "KOI8-R".toList cutShort).lines = [⟨1, "A\uFFFD".toList⟩, ⟨3, "\uFFFDB".toList⟩] ∧
          ∃ piece, NthPiece 0x0A cutShort 3 piece ∧
            SourceLine.Keeps (Encoding.utf8.decodeUnmarked piece) "\uFFFDB".toList := by
  have hmark : ¬ HasMark cutShort := by decide
  obtain ⟨hdecode, hlines⟩ := decode_lineByLine hmark
  have hfile : (ofBytes "KOI8-R".toList cutShort).lines =
      [⟨1, "A\uFFFD".toList⟩, ⟨3, "\uFFFDB".toList⟩] := by decide
  have hname : Encoding.ofName (ofBytes "KOI8-R".toList cutShort).encoding = .utf8 := by decide
  have hmem : ⟨3, "\uFFFDB".toList⟩ ∈ (ofBytes "KOI8-R".toList cutShort).lines := by
    rw [hfile]
    exact List.mem_cons_of_mem _ (List.mem_singleton_self _)
  have hthird := (hlines "KOI8-R".toList 3 "\uFFFDB".toList).1 hmem
  rw [hname] at hthird
  exact ⟨hmark, hdecode "latin1".toList [0xEF, 0xBB, 0xBF], hfile, hthird⟩

end LoadedFile

end ChartScript
