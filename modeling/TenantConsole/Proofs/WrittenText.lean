import TenantConsole.Json.Printer
import TenantConsole.Json.Quoted

/-!
# Quoted text, written and read again

A text is written character by character, quotes and backslashes escaped, and read byte by byte.
The two meet at the bytes of a character: an escaped one is read as the character that it stands
for, any other one as its own bytes. `readText_written` is the round trip: what has been written
between quotes reads as the same text, whatever follows it.
-/

namespace TenantConsole.Json

/-! ## Bytes -/

/-- The bytes of the characters in a list, each as the character of its number. -/
def bytes (characters : List Char) : List Char := characters.flatMap bytesOfChar

@[simp] theorem bytes_nil : bytes [] = [] := rfl

@[simp] theorem bytes_append (left right : List Char) :
    bytes (left ++ right) = bytes left ++ bytes right :=
  List.flatMap_append

theorem bytes_cons (c : Char) (rest : List Char) :
    bytes (c :: rest) = bytesOfChar c ++ bytes rest :=
  List.flatMap_cons

/-- A byte is below the numbers that stand for no character, so nothing is lost on the way. -/
theorem toNat_ofByte (byte : UInt8) : (Char.ofNat byte.toNat).toNat = byte.toNat := by
  have hlt := byte.toNat_lt
  have hvalid : byte.toNat.isValidChar := .inl (by omega)
  unfold Char.ofNat
  rw [dif_pos hvalid]
  rfl

/-- A character below 128 is written as one byte, and that is itself. -/
theorem bytesOfChar_ascii {c : Char} (hc : c.toNat < 128) : bytesOfChar c = [c] := by
  have hle : c.val.toNat ≤ 0x7f := Nat.le_of_lt_succ hc
  have hbyte : (UInt8.ofNat c.val.toNat).toNat = c.toNat := by
    show c.toNat % 256 = c.toNat
    omega
  unfold bytesOfChar String.utf8EncodeChar
  simp only [if_pos hle, List.map_cons, List.map_nil, hbyte, Char.ofNat_toNat]

/-- Characters of one byte are their own bytes. -/
theorem bytes_ascii {characters : List Char} (h : ∀ c ∈ characters, c.toNat < 128) :
    bytes characters = characters := by
  induction characters with
  | nil => rfl
  | cons c rest ih =>
    rw [bytes_cons, bytesOfChar_ascii (h c List.mem_cons_self),
      ih fun d hd => h d (List.mem_cons_of_mem c hd)]
    rfl

/-- The bytes of any other character are beyond those of one byte. -/
theorem le_of_mem_bytesOfChar {c b : Char} (hc : 128 ≤ c.toNat) (hb : b ∈ bytesOfChar c) :
    128 ≤ b.toNat := by
  unfold bytesOfChar at hb
  obtain ⟨byte, hbyte, rfl⟩ := List.mem_map.1 hb
  rw [toNat_ofByte]
  have hgt : ¬ c.val.toNat ≤ 0x7f := Nat.not_le_of_lt hc
  unfold String.utf8EncodeChar at hbyte
  simp only [if_neg hgt] at hbyte
  -- every byte is a mark of at least 128 with some bits of the character below it
  have hmark {high low : Nat} (hhigh : 128 ≤ high) (hlow : high + low < 256) :
      128 ≤ (UInt8.ofNat (low + high)).toNat := by
    show 128 ≤ (low + high) % 256
    omega
  -- two, three or four of them
  split at hbyte
  · simp only [List.mem_cons, List.not_mem_nil, or_false] at hbyte
    rcases hbyte with rfl | rfl
    all_goals exact hmark (by omega) (by omega)
  · split at hbyte
    · simp only [List.mem_cons, List.not_mem_nil, or_false] at hbyte
      rcases hbyte with rfl | rfl | rfl
      all_goals exact hmark (by omega) (by omega)
    · simp only [List.mem_cons, List.not_mem_nil, or_false] at hbyte
      rcases hbyte with rfl | rfl | rfl | rfl
      all_goals exact hmark (by omega) (by omega)

/-- A character is made up of its bytes again. -/
theorem unbyte_bytes (characters : List Char) :
    (bytes characters).map (fun byte => UInt8.ofNat byte.toNat)
      = characters.flatMap String.utf8EncodeChar := by
  induction characters with
  | nil => rfl
  | cons c rest ih =>
    rw [bytes_cons, List.map_append, ih, List.flatMap_cons]
    unfold bytesOfChar
    rw [List.map_map]
    congr 1
    refine (List.map_congr_left fun byte _ => ?_).trans (List.map_id _)
    show UInt8.ofNat (Char.ofNat byte.toNat).toNat = byte
    rw [toNat_ofByte, UInt8.ofNat_toNat]

/-- Bytes make up the text that they come from. -/
theorem textOf?_bytes (characters : List Char) :
    textOf? (bytes characters) = some (String.ofList characters) := by
  unfold textOf?
  rw [unbyte_bytes]
  -- the bytes are those of the text by the definition of its encoding, so they are valid
  have hbytes : (⟨(characters.flatMap String.utf8EncodeChar).toArray⟩ : ByteArray)
      = (String.ofList characters).toByteArray := by
    show _ = List.utf8Encode characters
    unfold List.utf8Encode
    rw [ByteArray.ext_iff, List.data_toByteArray]
  rw [hbytes]
  unfold String.fromUTF8?
  rw [dif_pos (String.ofList characters).isValidUTF8]
  rfl

/-! ## Between quotes -/

/-- What is pushed in two goes is pushed in one. -/
theorem push_push (first second : List Char) (read : Except Stop (List Char × List Char)) :
    push first (push second read) = push (first ++ second) read := by
  cases read with
  | error stop => rfl
  | ok found => simp only [push, List.append_assoc]

theorem push_nil (read : Except Stop (List Char × List Char)) : push [] read = read := by
  cases read <;> rfl

/-- A character that is none of the marks stands for itself. -/
theorem readQuoted_plain {c : Char} (hquote : c ≠ '"') (hslash : c ≠ '\\')
    (hprintable : 32 ≤ c.toNat) (rest : List Char) :
    readQuoted (c :: rest) = push [c] (readQuoted rest) := by
  rw [readQuoted.eq_def]
  simp only [if_neg hquote, if_neg hslash, if_neg (Nat.not_lt.2 hprintable)]

/-- Bytes of 128 and more are no marks, so they are taken as they are. Induction on the bytes. -/
theorem readQuoted_wide {wide : List Char} (h : ∀ b ∈ wide, 128 ≤ b.toNat) (rest : List Char) :
    readQuoted (wide ++ rest) = push wide (readQuoted rest) := by
  induction wide with
  | nil => exact (push_nil _).symm
  | cons b wide ih =>
    have hb := h b List.mem_cons_self
    have hquote : b ≠ '"' := by rintro rfl; exact absurd hb (by decide)
    have hslash : b ≠ '\\' := by rintro rfl; exact absurd hb (by decide)
    rw [List.cons_append, readQuoted_plain hquote hslash (by omega),
      ih fun d hd => h d (List.mem_cons_of_mem b hd), push_push]
    rfl

/-- An escape by a letter. -/
theorem readQuoted_letter {letter c : Char} (hletter : letter ≠ 'u')
    (hnames : unescape? letter = some c) (rest : List Char) :
    readQuoted ('\\' :: letter :: rest) = push [c] (readQuoted rest) := by
  rw [readQuoted.eq_def]
  simp only [if_neg (show ¬ '\\' = '"' by decide), if_true, if_neg hletter, hnames]

/-- The four digits of a code unit are single bytes. -/
theorem toNat_lt_of_mem_hexDigits {n : Nat} {d : Char} (h : d ∈ hexDigits n) : d.toNat < 128 := by
  have hdigit : ∀ k < 16, (Nat.digitChar k).toNat < 128 := by decide
  obtain ⟨k, hk, rfl⟩ := List.mem_map.1 h
  simp only [List.mem_cons, List.not_mem_nil, or_false] at hk
  exact hdigit k (by omega)

/-- An escape by a code unit below the space. -/
theorem readQuoted_unit {n : Nat} (hn : n < 32) (rest : List Char) :
    readQuoted ('\\' :: 'u' :: hexDigits n ++ rest) = push [Char.ofNat n] (readQuoted rest) := by
  -- there are few enough of them to try each
  have hunit : ∀ n < 32, codeUnit? (n / 4096 % 16).digitChar (n / 256 % 16).digitChar
      (n / 16 % 16).digitChar (n % 16).digitChar = some n := by decide
  -- and none is half of a pair, so the next escape is not looked at
  have hlow : isLowSurrogate n = false := by simp [isLowSurrogate]; omega
  have hhigh : isHighSurrogate n = false := by simp [isHighSurrogate]; omega
  have hbytes : bytesOfChar (Char.ofNat n) = [Char.ofNat n] := by
    refine bytesOfChar_ascii ?_
    have := toNat_ofByte (UInt8.ofNat n)
    rw [show (UInt8.ofNat n).toNat = n from Nat.mod_eq_of_lt (by omega)] at this
    omega
  rw [readQuoted.eq_def]
  simp only [hexDigits, List.map_cons, List.map_nil, List.cons_append, List.nil_append,
    if_neg (show ¬ '\\' = '"' by decide), if_true, hunit n hn, hlow, hhigh, Bool.false_eq_true,
    if_false, hbytes]

/-- **A character that has been escaped reads as its bytes.** -/
theorem readQuoted_escape (c : Char) (rest : List Char) :
    readQuoted (bytes (escape c) ++ rest) = push (bytesOfChar c) (readQuoted rest) := by
  unfold escape
  -- the seven characters with a letter of their own come first
  split
  · subst c; exact readQuoted_letter (by decide) rfl rest
  split
  · subst c; exact readQuoted_letter (by decide) rfl rest
  split
  · subst c; exact readQuoted_letter (by decide) rfl rest
  split
  · subst c; exact readQuoted_letter (by decide) rfl rest
  split
  · subst c; exact readQuoted_letter (by decide) rfl rest
  split
  · subst c; exact readQuoted_letter (by decide) rfl rest
  split
  · subst c; exact readQuoted_letter (by decide) rfl rest
  rename_i hquote hslash _ _ _ _ _
  split
  · -- a control character without a letter is written by its number
    rename_i hcontrol
    have hascii : ∀ d ∈ '\\' :: 'u' :: hexDigits c.toNat, d.toNat < 128 :=
      List.forall_mem_cons.2 ⟨by decide, List.forall_mem_cons.2
        ⟨by decide, fun _ => toNat_lt_of_mem_hexDigits⟩⟩
    rw [bytes_ascii hascii, readQuoted_unit hcontrol, Char.ofNat_toNat,
      bytesOfChar_ascii (by omega)]
  · rename_i hprintable
    rw [bytes_cons, bytes_nil, List.append_nil]
    -- all others stand for themselves, in one byte or in several
    by_cases hascii : c.toNat < 128
    · rw [bytesOfChar_ascii hascii]
      exact readQuoted_plain hquote hslash (Nat.not_lt.1 hprintable) rest
    · exact readQuoted_wide (fun b hb => le_of_mem_bytesOfChar (Nat.not_lt.1 hascii) hb) rest

/-- A text is read up to the closing quote. Induction on its characters, each of which reads as its
bytes and leaves the rest. -/
theorem readQuoted_written (characters rest : List Char) :
    readQuoted (bytes (characters.flatMap escape) ++ '"' :: rest)
      = .ok (bytes characters, rest) := by
  induction characters with
  | nil =>
    show readQuoted ('"' :: rest) = _
    rw [readQuoted.eq_def]
    rfl
  | cons c characters ih =>
    rw [List.flatMap_cons, bytes_append, List.append_assoc, readQuoted_escape, ih, bytes_cons]
    rfl

/-- **What has been written between quotes reads as the same text.** -/
theorem readText_written (text : String) (rest : List Char) :
    readText (bytes (text.toList.flatMap escape) ++ '"' :: rest) = .ok (text, rest) := by
  unfold readText
  rw [readQuoted_written]
  simp only [textOf?_bytes, String.ofList_toList]

/-- A written text is its escaped characters between quotes. -/
theorem bytes_writeText (text : String) :
    bytes (writeText text) = '"' :: (bytes (text.toList.flatMap escape) ++ ['"']) := by
  unfold writeText
  rw [bytes_append, bytes_cons]
  rfl

end TenantConsole.Json
