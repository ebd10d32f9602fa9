import InfoModel.Datatype.Parse
import InfoModel.Proofs.Outcome
import Mathlib.Data.Set.Function

/-!
# Bytes by their encoding

Every sequence of bytes has one encoding, and what is read is the encodings and nothing else: the
letters of a last group that is filled up must leave the bits at its end zero. Blanks do not count,
wherever they stand. Main statement: `Datatype.base64_byEncoding`.
-/

namespace InfoModel
namespace Base64
open InfoModel.Unicode

variable {c p q r s : Char} {n : Nat} {bs : List UInt8} {cs : List Char}

theorem letterValue?_letter (h : n < 64) : letterValue? (letter n) = some n := by
  have hall : ∀ n < 64, letterValue? (letter n) = some n := by decide
  exact hall n h

theorem letter_of_letterValue? (h : letterValue? c = some n) : n < 64 ∧ letter n = c := by
  unfold letterValue? isAsciiDigit at h
  simp only [Bool.and_eq_true, decide_eq_true_eq] at h
  split at h
  · next hc =>
    have hlo : 65 ≤ c.toNat := hc.1
    have hhi : c.toNat ≤ 90 := hc.2
    have hn : c.toNat - 65 = n := Option.some.inj h
    have hcode : 65 + n = c.toNat := by omega
    refine ⟨by omega, ?_⟩
    unfold letter
    rw [if_pos (by omega), hcode, Char.ofNat_toNat]
  split at h
  · next hc =>
    have hlo : 97 ≤ c.toNat := hc.1
    have hhi : c.toNat ≤ 122 := hc.2
    have hn : c.toNat - 97 + 26 = n := Option.some.inj h
    have hcode : 97 + (n - 26) = c.toNat := by omega
    refine ⟨by omega, ?_⟩
    unfold letter
    rw [if_neg (by omega), if_pos (by omega), hcode, Char.ofNat_toNat]
  split at h
  · next hc =>
    have hlo : 48 ≤ c.toNat := hc.1
    have hhi : c.toNat ≤ 57 := hc.2
    have hn : c.toNat - 48 + 52 = n := Option.some.inj h
    have hcode : 48 + (n - 52) = c.toNat := by omega
    refine ⟨by omega, ?_⟩
    unfold letter
    rw [if_neg (by omega), if_neg (by omega), if_pos (by omega), hcode, Char.ofNat_toNat]
  split at h
  · next hc =>
    cases h
    exact ⟨by decide, hc.symm⟩
  split at h
  · next hc =>
    cases h
    exact ⟨by decide, hc.symm⟩
  · cases h

theorem letterValue?_eq_some_iff : letterValue? c = some n ↔ n < 64 ∧ c = letter n := by
  constructor
  · intro h
    obtain ⟨hn, hc⟩ := letter_of_letterValue? h
    exact ⟨hn, hc.symm⟩
  · rintro ⟨hn, rfl⟩
    exact letterValue?_letter hn

example : String.ofList ((List.range 64).map letter) =
    "ABCDEFGHIJKLMNOPQRSTUVWXYZabcdefghijklmnopqrstuvwxyz0123456789+/" := by decide

theorem letterValue?_filler : letterValue? '=' = none := by decide

theorem letter_ne_filler (h : n < 64) : letter n ≠ '=' := by
  intro hfiller
  have hvalue := letterValue?_letter h
  rw [hfiller, letterValue?_filler] at hvalue
  cases hvalue

theorem toNat_ofNat (h : n < 256) : (UInt8.ofNat n).toNat = n := UInt8.toNat_ofNat_of_lt' h

theorem eq_ofNat {x : UInt8} (h : x.toNat = n) : UInt8.ofNat n = x := by
  rw [← h, UInt8.ofNat_toNat]

theorem decodeFull_eq_some_iff : decodeFull p q r s = some bs ↔
    ∃ x y z, bs = [x, y, z] ∧ [p, q, r, s] = encode [x, y, z] := by
  constructor
  · intro h
    unfold decodeFull at h
    split at h
    · next a b c d hp hq hr hs =>
      obtain ⟨ha, rfl⟩ := letterValue?_eq_some_iff.mp hp
      obtain ⟨hb, rfl⟩ := letterValue?_eq_some_iff.mp hq
      obtain ⟨hc, rfl⟩ := letterValue?_eq_some_iff.mp hr
      obtain ⟨hd, rfl⟩ := letterValue?_eq_some_iff.mp hs
      refine ⟨_, _, _, (Option.some.inj h).symm, ?_⟩
      unfold encode
      rw [toNat_ofNat (by omega), toNat_ofNat (by omega), toNat_ofNat (by omega)]
      have hn : (a * 4 + b / 16) * 65536 + (b % 16 * 16 + c / 4) * 256 + (c % 4 * 64 + d) =
          a * 262144 + b * 4096 + c * 64 + d := by omega
      have hfirst : (a * 262144 + b * 4096 + c * 64 + d) / 262144 = a := by omega
      have hsecond : (a * 262144 + b * 4096 + c * 64 + d) / 4096 % 64 = b := by omega
      have hthird : (a * 262144 + b * 4096 + c * 64 + d) / 64 % 64 = c := by omega
      have hfourth : (a * 262144 + b * 4096 + c * 64 + d) % 64 = d := by omega
      simp only [hn, hfirst, hsecond, hthird, hfourth]
      rfl
    · cases h
  · rintro ⟨x, y, z, rfl, h⟩
    have hx := x.toNat_lt
    have hy := y.toNat_lt
    have hz := z.toNat_lt
    simp only [encode, List.cons.injEq] at h
    obtain ⟨rfl, rfl, rfl, rfl, -⟩ := h
    unfold decodeFull
    rw [letterValue?_letter (by omega), letterValue?_letter (by omega),
      letterValue?_letter (by omega), letterValue?_letter (by omega)]
    simp only
    rw [eq_ofNat (x := x) (by omega), eq_ofNat (x := y) (by omega), eq_ofNat (x := z) (by omega)]

/-- A group that is filled up is read as the one or two bytes that it encodes. -/
theorem decodeFilled_eq_some_iff : decodeFilled p q r s = some bs ↔
    (∃ x, bs = [x] ∧ [p, q, r, s] = encode [x]) ∨
      ∃ x y, bs = [x, y] ∧ [p, q, r, s] = encode [x, y] := by
  constructor
  · intro h
    unfold decodeFilled at h
    split at h
    · next a b c hp hq hr =>
      obtain ⟨ha, rfl⟩ := letterValue?_eq_some_iff.mp hp
      obtain ⟨hb, rfl⟩ := letterValue?_eq_some_iff.mp hq
      obtain ⟨hc, rfl⟩ := letterValue?_eq_some_iff.mp hr
      split at h
      · next hfilled =>
        obtain ⟨rfl, hzero⟩ := hfilled
        refine .inr ⟨_, _, (Option.some.inj h).symm, ?_⟩
        unfold encode
        rw [toNat_ofNat (by omega), toNat_ofNat (by omega)]
        have hn : (a * 4 + b / 16) * 256 + (b % 16 * 16 + c / 4) =
            a * 1024 + b * 16 + c / 4 := by omega
        have hfirst : (a * 1024 + b * 16 + c / 4) / 1024 = a := by omega
        have hsecond : (a * 1024 + b * 16 + c / 4) / 16 % 64 = b := by omega
        have hthird : (a * 1024 + b * 16 + c / 4) % 16 * 4 = c := by omega
        simp only [hn, hfirst, hsecond, hthird]
      · cases h
    · next a b hp hq hr =>
      obtain ⟨ha, rfl⟩ := letterValue?_eq_some_iff.mp hp
      obtain ⟨hb, rfl⟩ := letterValue?_eq_some_iff.mp hq
      split at h
      · next hfilled =>
        obtain ⟨rfl, rfl, hzero⟩ := hfilled
        refine .inl ⟨_, (Option.some.inj h).symm, ?_⟩
        unfold encode
        rw [toNat_ofNat (by omega)]
        have hfirst : (a * 4 + b / 16) / 4 = a := by omega
        have hsecond : (a * 4 + b / 16) % 4 * 16 = b := by omega
        simp only [hfirst, hsecond]
      · cases h
    · cases h
  · rintro (⟨x, rfl, h⟩ | ⟨x, y, rfl, h⟩)
    · have hx := x.toNat_lt
      simp only [encode, List.cons.injEq] at h
      obtain ⟨rfl, rfl, rfl, rfl, -⟩ := h
      unfold decodeFilled
      rw [letterValue?_letter (by omega), letterValue?_letter (by omega), letterValue?_filler]
      simp only
      rw [if_pos ⟨trivial, trivial, by omega⟩, eq_ofNat (x := x) (by omega)]
    · have hx := x.toNat_lt
      have hy := y.toNat_lt
      simp only [encode, List.cons.injEq] at h
      obtain ⟨rfl, rfl, rfl, rfl, -⟩ := h
      unfold decodeFilled
      rw [letterValue?_letter (by omega), letterValue?_letter (by omega),
        letterValue?_letter (by omega)]
      simp only
      rw [if_pos ⟨trivial, by omega⟩, eq_ofNat (x := x) (by omega), eq_ofNat (x := y) (by omega)]

theorem decodeFull_filler (p q r : Char) : decodeFull p q r '=' = none := by
  cases h : decodeFull p q r '=' with
  | none => rfl
  | some bytes =>
    obtain ⟨x, y, z, -, hletters⟩ := decodeFull_eq_some_iff.mp h
    simp only [encode, List.cons.injEq] at hletters
    exact absurd hletters.2.2.2.1.symm (letter_ne_filler (Nat.mod_lt _ (by decide)))

theorem decode_filled (p q r : Char) : decode [p, q, r, '='] = decodeFilled p q r '=' := by
  unfold decode
  rw [decodeFull_filler]

theorem decode_full {bytes : List UInt8} (h : decodeFull p q r s = some bytes) :
    decode (p :: q :: r :: s :: cs) = (decode cs).map (bytes ++ ·) := by
  cases cs with
  | nil => simp [decode, h]
  | cons c cs =>
    simp only [decode, h]
    cases decode (c :: cs) with
    | none => rfl
    | some more => rfl

/-- By induction on the groups that are encoded, what was encoded is read again. -/
theorem decode_encode (bs : List UInt8) : decode (encode bs) = some bs := by
  fun_induction encode bs with
  | case1 => rfl
  | case2 x n =>
    rw [decode_filled]
    exact decodeFilled_eq_some_iff.mpr (.inl ⟨x, rfl, rfl⟩)
  | case3 x y n =>
    rw [decode_filled]
    exact decodeFilled_eq_some_iff.mpr (.inr ⟨x, y, rfl, rfl⟩)
  | case4 x y z rest n ih =>
    have hfull := decodeFull_eq_some_iff.mpr ⟨x, y, z, rfl, rfl⟩
    rw [decode_full hfull, ih]
    rfl

/-- By induction on the groups that are read, the letters are those that encode the bytes. -/
theorem encode_of_decode (h : decode cs = some bs) : encode bs = cs := by
  fun_induction decode cs generalizing bs with
  | case1 =>
    cases h
    rfl
  | case2 p q r s bytes hfull =>
    cases h
    obtain ⟨x, y, z, rfl, hletters⟩ := decodeFull_eq_some_iff.mp hfull
    exact hletters.symm
  | case3 p q r s hnone =>
    rcases decodeFilled_eq_some_iff.mp h with ⟨x, rfl, hletters⟩ | ⟨x, y, rfl, hletters⟩
    · exact hletters.symm
    · exact hletters.symm
  | case4 p q r s rest hne bytes more hmore hfull ih =>
    cases h
    obtain ⟨x, y, z, rfl, hletters⟩ := decodeFull_eq_some_iff.mp hfull
    have hgroup : encode ([x, y, z] ++ more) = encode [x, y, z] ++ encode more := rfl
    rw [hgroup, ← hletters, ih hmore]
    rfl
  | case5 => cases h
  | case6 => cases h

theorem decode_eq_some_iff : decode cs = some bs ↔ encode bs = cs := by
  constructor
  · exact encode_of_decode
  · rintro rfl
    exact decode_encode bs

theorem not_blank_of_mem_encode (h : c ∈ encode bs) : isBlank c = false := by
  have hletter : ∀ n < 64, isBlank (letter n) = false := by decide
  have hfiller : isBlank '=' = false := by decide
  fun_induction encode bs with
  | case1 => cases h
  | case2 x n =>
    have hx := x.toNat_lt
    simp only [List.mem_cons, List.not_mem_nil, or_false] at h
    rcases h with rfl | rfl | rfl | rfl
    · exact hletter _ (by omega)
    · exact hletter _ (by omega)
    · exact hfiller
    · exact hfiller
  | case3 x y n =>
    have hx := x.toNat_lt
    have hy := y.toNat_lt
    simp only [List.mem_cons, List.not_mem_nil, or_false] at h
    rcases h with rfl | rfl | rfl | rfl
    · exact hletter _ (by omega)
    · exact hletter _ (by omega)
    · exact hletter _ (by omega)
    · exact hfiller
  | case4 x y z rest n ih =>
    have hx := x.toNat_lt
    have hy := y.toNat_lt
    have hz := z.toNat_lt
    simp only [List.mem_cons] at h
    rcases h with rfl | rfl | rfl | rfl | h
    · exact hletter _ (by omega)
    · exact hletter _ (by omega)
    · exact hletter _ (by omega)
    · exact hletter _ (by omega)
    · exact ih h

theorem encode_injective : Function.Injective encode := by
  intro bs bs' h
  have hread := decode_encode bs
  rw [h, decode_encode] at hread
  exact (Option.some.inj hread).symm

/-- Bits at the end that no byte needs must be zero, and groups must be filled up. -/
example : decode "QQ==".toList = some [65] ∧ decode "QR==".toList = none ∧
    decode "QQ".toList = none := by decide

end Base64

namespace Text
open InfoModel.Unicode

def withoutBlanks (cs : List Char) : List Char := cs.filter fun c => !isBlank c

theorem withoutBlanks_dropWhile (cs : List Char) :
    withoutBlanks (cs.dropWhile isBlank) = withoutBlanks cs := by
  induction cs with
  | nil => rfl
  | cons c cs ih =>
    unfold withoutBlanks at ih ⊢
    by_cases hc : isBlank c = true
    · simp [hc, ih]
    · simp [hc]

theorem withoutBlanks_trimChars (cs : List Char) :
    withoutBlanks (trimChars cs) = withoutBlanks cs := by
  have hreverse : ∀ ds : List Char, withoutBlanks ds.reverse = (withoutBlanks ds).reverse :=
    fun _ => List.filter_reverse
  unfold trimChars
  rw [hreverse, withoutBlanks_dropWhile, hreverse, withoutBlanks_dropWhile, List.reverse_reverse]

end Text

namespace Datatype
open InfoModel.Text InfoModel.Unicode

variable {text : String} {v : Value} {bs : List UInt8}

theorem base64_parse_eq_ok_iff : base64.parse text = .ok v ↔
    ∃ bs, Base64.encode bs = withoutBlanks text.toList ∧ v = .bytes bs := by
  show (base64.orRefuse text .malformed
    (Base64.decode (withoutBlanks (trimChars text.toList)))).map Value.bytes = .ok v ↔ _
  rw [withoutBlanks_trimChars, Except.map_eq_ok_iff]
  refine exists_congr fun bs => ?_
  rw [← Base64.decode_eq_some_iff, eq_comm (a := v)]
  refine and_congr_left fun _ => ?_
  unfold orRefuse refuse
  cases Base64.decode (withoutBlanks text.toList) with
  | none => simp
  | some bytes => simp

/-- The texts that are taken as bytes are those that encode these bytes once all blanks are left
out, and so the encoding is one to one between all sequences of bytes and the texts without blanks
that are taken. -/
theorem base64_byEncoding :
    (∀ text v, base64.parse text = .ok v ↔
      ∃ bs, Base64.encode bs = withoutBlanks text.toList ∧ v = .bytes bs) ∧
    Set.BijOn Base64.encode Set.univ
      {cs | ∃ text v, withoutBlanks text.toList = cs ∧ base64.parse text = .ok v} := by
  refine ⟨fun text v => base64_parse_eq_ok_iff, ?_, ?_, ?_⟩
  · rintro bs -
    have hbare : withoutBlanks (Base64.encode bs) = Base64.encode bs := by
      refine List.filter_eq_self.mpr fun c hc => ?_
      rw [Base64.not_blank_of_mem_encode hc]
      rfl
    refine ⟨String.ofList (Base64.encode bs), .bytes bs, ?_,
      base64_parse_eq_ok_iff.mpr ⟨bs, ?_, rfl⟩⟩
    · rw [String.toList_ofList, hbare]
    · rw [String.toList_ofList, hbare]
  · exact Base64.encode_injective.injOn
  · rintro cs ⟨text, v, rfl, hparse⟩
    obtain ⟨bs, hbs, -⟩ := base64_parse_eq_ok_iff.mp hparse
    exact ⟨bs, trivial, hbs⟩

/-- Blanks may stand anywhere in the text, the widest of them too. -/
example : base64.parse "\u2003aG Vs\nbG8\u00a0= " = .ok (.bytes [104, 101, 108, 108, 111]) := by rfl

end Datatype

end InfoModel
