import TenantConsole.Proofs.PlainRecords
import TenantConsole.Token.Jwt

/-!
# Session tokens carry their claims

A token that has been issued for claims is good until they expire, and whoever validates it with
the same secret gets those very claims back (`claims_carried`). Nothing is asked of the claims but
that they have not expired: their texts are arbitrary, and so is the hour of issue.

Every layer of writing is undone by the layer of reading above it:

* **base64url**: digits of six bits make up the bytes again, whatever is left over at the end, and
  no digit is a point;
* **parts**: the last point parts the signature from what has been signed, the one before it the
  header from the claims;
* **texts**: header and claims are records whose members are texts and whole numbers, and the
  members that a check attempts to read are read as they stand.

The keyed hash is a function of the secret and the message and nothing more; none of its properties
is used.
-/

namespace TenantConsole

/-! ## Base64url -/

namespace Base64Url

/-- A byte is made up of the bits that have been spread over two digits. -/
theorem byte_eq {n : Nat} (byte : UInt8) (h : n = byte.toNat) : UInt8.ofNat n = byte := by
  rw [h, UInt8.ofNat_toNat]

/-- **Digits are decoded to the bytes that they encode.** -/
theorem decode?_encode (bytes : List UInt8) : decode? (encode bytes) = some bytes := by
  -- by threes; one or two bytes that are left over make a shorter last group
  fun_induction encode bytes with
  | case1 => rfl
  | case2 a =>
    have ha := a.toNat_lt
    have hspare : a.toNat % 4 * 16 % 16 = 0 := by omega
    have hbyte := byte_eq (n := a.toNat / 4 * 4 + a.toNat % 4 * 16 / 16) a (by omega)
    rw [decode?, value?_digit (by omega), value?_digit (by omega)]
    simp only [Option.bind_eq_bind, Option.bind_some, hspare, if_true, hbyte]
  | case3 a b =>
    have ha := a.toNat_lt
    have hb := b.toNat_lt
    have hspare : b.toNat % 16 * 4 % 4 = 0 := by omega
    have hfirst := byte_eq
      (n := a.toNat / 4 * 4 + (a.toNat % 4 * 16 + b.toNat / 16) / 16) a (by omega)
    have hsecond := byte_eq
      (n := (a.toNat % 4 * 16 + b.toNat / 16) % 16 * 16 + b.toNat % 16 * 4 / 4) b (by omega)
    rw [decode?, value?_digit (by omega), value?_digit (by omega), value?_digit (by omega)]
    simp only [Option.bind_eq_bind, Option.bind_some, hspare, if_true, hfirst, hsecond]
  | case4 a b c rest ih =>
    have ha := a.toNat_lt
    have hb := b.toNat_lt
    have hc := c.toNat_lt
    have hfirst := byte_eq
      (n := a.toNat / 4 * 4 + (a.toNat % 4 * 16 + b.toNat / 16) / 16) a (by omega)
    have hsecond := byte_eq
      (n := (a.toNat % 4 * 16 + b.toNat / 16) % 16 * 16 + (b.toNat % 16 * 4 + c.toNat / 64) / 4) b
      (by omega)
    have hthird := byte_eq
      (n := (b.toNat % 16 * 4 + c.toNat / 64) % 4 * 64 + c.toNat % 64) c (by omega)
    rw [decode?, value?_digit (by omega), value?_digit (by omega), value?_digit (by omega),
      value?_digit (by omega), ih]
    simp only [Option.bind_eq_bind, Option.bind_some, hfirst, hsecond, hthird]
    rfl

/-- A character of the alphabet. -/
def IsDigit (c : Char) : Prop := (value? c).isSome = true

instance (c : Char) : Decidable (IsDigit c) := inferInstanceAs (Decidable (_ = true))

theorem isDigit_digit {n : Nat} (hn : n < 64) : IsDigit (digit n) := by
  unfold IsDigit
  rw [value?_digit hn]
  rfl

/-- Bytes are encoded to digits only, without padding. -/
theorem isDigit_of_mem_encode (bytes : List UInt8) : ∀ c ∈ encode bytes, IsDigit c := by
  fun_induction encode bytes with
  | case1 => nofun
  | case2 a =>
    have ha := a.toNat_lt
    simp only [List.forall_mem_cons]
    exact ⟨isDigit_digit (by omega), isDigit_digit (by omega), nofun⟩
  | case3 a b =>
    have ha := a.toNat_lt
    have hb := b.toNat_lt
    simp only [List.forall_mem_cons]
    exact ⟨isDigit_digit (by omega), isDigit_digit (by omega), isDigit_digit (by omega), nofun⟩
  | case4 a b c rest ih =>
    have ha := a.toNat_lt
    have hb := b.toNat_lt
    have hc := c.toNat_lt
    simp only [List.forall_mem_cons]
    exact ⟨isDigit_digit (by omega), isDigit_digit (by omega), isDigit_digit (by omega),
      isDigit_digit (by omega), ih⟩

/-- Neither a point nor padding is a digit. -/
theorem point_not_mem (bytes : List UInt8) : '.' ∉ encode bytes := by
  intro h
  exact absurd (isDigit_of_mem_encode bytes '.' h) (by decide)

end Base64Url

/-! ## Parts -/

namespace Jwt

open Json

/-- The bytes of an array are listed from a place on. -/
theorem toList_loop (bytes : ByteArray) (i : Nat) (found : List UInt8) :
    ByteArray.toList.loop bytes i found = found.reverse ++ bytes.data.toList.drop i := by
  -- byte by byte, with those found so far turned round
  fun_induction ByteArray.toList.loop bytes i found with
  | case1 i found hi ih =>
    have hsize : i < bytes.data.toList.length := hi
    have hget : bytes.get! i = bytes.data.toList[i] := getElem!_pos bytes.data i hi
    rw [ih, hget, List.reverse_cons, List.append_assoc, List.drop_eq_getElem_cons hsize]
    rfl
  | case2 i found hi =>
    have hsize : bytes.data.toList.length ≤ i := Nat.not_lt.1 hi
    rw [List.drop_eq_nil_of_le hsize, List.append_nil]

/-- The bytes of a text are the bytes of its characters. -/
theorem toList_toUTF8 (text : String) :
    text.toUTF8.toList = text.toList.flatMap String.utf8EncodeChar := by
  have hbytes : text.toUTF8 = (text.toList.flatMap String.utf8EncodeChar).toByteArray := by
    have h : (String.ofList text.toList).toByteArray = List.utf8Encode text.toList := rfl
    rw [String.ofList_toList] at h
    exact h
  unfold ByteArray.toList
  rw [toList_loop, hbytes, List.data_toByteArray]
  rfl

/-- A part of a token is read as the text that it has been made of. -/
theorem decodePart_encodeText (text : String) :
    decodePart (encodeText text) = .ok (bytesOf text) := by
  unfold decodePart encodeText
  rw [Base64Url.decode?_encode, toList_toUTF8]
  show Except.ok ((text.toList.flatMap String.utf8EncodeChar).map _) = _
  rw [List.map_flatMap]
  rfl

/-- What stands behind the last point has no point in it. -/
theorem splitLast_point {before after : List Char} (h : '.' ∉ after) :
    splitLast (before ++ '.' :: after) = .ok (before, after) := by
  have hno : ∀ c ∈ after.reverse, decide (c ≠ '.') = true := by
    intro c hc
    rw [decide_eq_true_eq]
    rintro rfl
    exact h (List.mem_reverse.1 hc)
  unfold splitLast
  rw [List.reverse_append, List.reverse_cons, List.append_assoc, List.dropWhile_append_of_pos hno,
    List.takeWhile_append_of_pos hno]
  simp

/-! ## Attempts -/

theorem attemptText_written (text : String) (rest : List Char) :
    attemptText (bytes (text.toList.flatMap escape) ++ '"' :: rest) = (some text, rest) := by
  unfold attemptText
  rw [readQuoted_written]
  simp only [textOf?_bytes, String.ofList_toList]

/-- A member that may be a text is read as the text that it is. -/
theorem readsAs_attempted_str (depth : Nat) (text : String) :
    attempted.ReadsAs depth (.str text) (.str text) := by
  intro style hstyle indent blanks rest hblanks _
  unfold attempted attemptValue
  simp only [skipBlanks_to_str hstyle hblanks, if_true, attemptText_written]
  rfl

theorem attemptNumber_writeInt {n : Int} (hn : Fits n) {rest : List Char} (hends : Ends rest) :
    attemptNumber (writeInt n ++ rest) = (some (.int n), rest) := by
  unfold attemptNumber
  rw [readNumeral_writeInt n hends]
  simp only [value?_toDigits hn]

/-- A whole number of 64 bits is had at the first attempt. -/
theorem readsAs_attemptedWord_int (depth : Nat) {n : Int} (hn : Fits n) :
    attemptedWord.ReadsAs depth (.int n) (.int n) := by
  intro style hstyle indent blanks rest hblanks hends
  obtain ⟨c, digits, hdigits, hc⟩ := (signed_writeInt n).head
  have hlist : c ≠ '[' := ne_of_number hc (by decide)
  have hobject : c ≠ '{' := ne_of_number hc (by decide)
  have hquote : c ≠ '"' := ne_of_number hc (by decide)
  have hnumber := attemptNumber_writeInt hn hends
  rw [hdigits, List.cons_append] at hnumber
  have hattempt : attempted.read depth (c :: (digits ++ rest)) = .ok (.int n, rest) := by
    unfold attempted attemptValue
    simp only [skipBlanks_cons (not_blank_of_number hc).1, hquote, hc, if_false, if_true, hnumber]
    rfl
  unfold attemptedWord
  simp only [skipBlanks_to_int hstyle hblanks, hdigits, List.cons_append]
  -- neither a list nor an object begins with the sign or a digit
  split
  · rename_i hhead
    exact absurd (List.cons.inj hhead).1 hlist
  · rename_i hhead
    exact absurd (List.cons.inj hhead).1 hobject
  · exact hattempt

/-! ## Header and claims -/

/-- A part that has been written from a value is read as what the format makes of the value. -/
theorem readPart_written {α : Type} {f : Json → α} {format : Format Json} {value found : Json}
    (h : format.ReadsAs depthLimit value found) :
    readPart (format.map f) (encodeText value.compact) = .ok (f found) := by
  unfold readPart
  rw [decodePart_encodeText]
  simp only [bind, Except.bind, bytesOf_compact, Format.finish_map,
    Format.finish_written h compact_airy]
  rfl

/-- The header names its algorithm. -/
theorem readPart_header : readPart headerFormat (encodeText header.compact) = .ok "HS256" := by
  have htype : (Format.text.nullable).ReadsAs 126 (.str "JWT") (.str "JWT") :=
    Format.readsAs_nullable nofun (Format.readsAs_text 126 "JWT")
  have halgorithm : (Format.oneOf algorithms).ReadsAs 126 (.str "HS256") (.str "HS256") :=
    Format.readsAs_oneOf 126 (by decide)
  have hread : readPart headerFormat (encodeText header.compact) = .ok _ :=
    readPart_written <| Format.readsAs_record
      (.cons (.declared rfl rfl htype) (.cons (.declared rfl rfl halgorithm) .nil)) rfl
  exact hread

theorem isInt64_toInt (n : Int64) : Format.isInt64 n.toInt = true := by
  have hlow := n.le_toInt
  have hhigh := n.toInt_lt
  unfold Format.isInt64
  simp only [Bool.and_eq_true, decide_eq_true_eq]
  omega

/-- The part with the claims is read as the claims. -/
theorem readPart_claims (claims : Claims) :
    readPart Claims.format (encodeText claims.toJson.compact) = .ok claims := by
  have htext (content : String) := Format.readsAs_text 126 content
  have hnumber (n : Int64) := Format.readsAs_int64 126 (isInt64_toInt n)
  have hread : readPart Claims.format (encodeText claims.toJson.compact) = .ok _ :=
    readPart_written <| Format.readsAs_record
      (.cons (.declared rfl rfl (htext claims.subject)) <|
        .cons (.declared rfl rfl (htext claims.issuer)) <|
        .cons (.declared rfl rfl (htext claims.organization)) <|
        .cons (.declared rfl rfl (htext claims.group)) <|
        .cons (.declared rfl rfl (hnumber claims.expiresAt)) <|
        .cons (.declared rfl rfl (hnumber claims.issuedAt)) .nil) rfl
  rw [hread]
  show Except.ok ({ claims with
    expiresAt := .ofInt claims.expiresAt.toInt, issuedAt := .ofInt claims.issuedAt.toInt } : Claims)
      = .ok claims
  rw [Int64.ofInt_toInt, Int64.ofInt_toInt]

/-- No audience is named: the members that could name one are not among the claims. -/
theorem readPart_audience (claims : Claims) :
    readPart audienceFormat (encodeText claims.toJson.compact) = .ok .null := by
  have htext (content : String) := readsAs_attempted_str 126 content
  have hexpiry := readsAs_attemptedWord_int 126
    (Format.fits_of_isInt64 (isInt64_toInt claims.expiresAt))
  have hread : readPart audienceFormat (encodeText claims.toJson.compact) = .ok _ :=
    readPart_written <| Format.readsAs_record
      (.cons (.declared rfl rfl (htext claims.subject)) <|
        .cons (.declared rfl rfl (htext claims.issuer)) <|
        .cons (.undeclared rfl (skips_str claims.organization)) <|
        .cons (.undeclared rfl (skips_str claims.group)) <|
        .cons (.declared rfl rfl hexpiry) <|
        .cons (.undeclared rfl (skips_int claims.issuedAt.toInt)) .nil) rfl
  exact hread

/-! ## Tokens -/

/-- The parts of the token that stands for claims. -/
theorem check_message (claims : Claims) (secret : String) (now : Int) :
    check (message claims ++ '.' :: sign secret (message claims)) secret now
      = (checkClaims claims .null now).map fun _ => claims := by
  have hsignature : '.' ∉ sign secret (message claims) := Base64Url.point_not_mem _
  have hbody : '.' ∉ encodeText claims.toJson.compact := Base64Url.point_not_mem _
  have hparts : splitLast (message claims)
      = .ok (encodeText header.compact, encodeText claims.toJson.compact) := splitLast_point hbody
  unfold check
  -- the header names the one algorithm, and the signature is compared with itself
  simp only [splitLast_point hsignature, hparts, readPart_header, readPart_claims,
    readPart_audience, bind, Except.bind, ne_eq, not_true_eq_false, if_false]
  cases checkClaims claims .null now <;> rfl

/-- Base64url without padding, in the one form that its bytes have. -/
def IsSegment (segment : List Char) : Prop :=
  (∀ c ∈ segment, Base64Url.IsDigit c)
    ∧ ∃ bytes, Base64Url.decode? segment = some bytes ∧ Base64Url.encode bytes = segment

theorem isSegment_encode (bytes : List UInt8) : IsSegment (Base64Url.encode bytes) :=
  ⟨Base64Url.isDigit_of_mem_encode bytes, bytes, Base64Url.decode?_encode bytes, rfl⟩

/-- The two points of a token part it in three. -/
theorem splitOn_token (claims : Claims) (secret : String) :
    (message claims ++ '.' :: sign secret (message claims)).splitOn '.'
      = [encodeText header.compact, encodeText claims.toJson.compact,
          sign secret (message claims)] := by
  have hheader : '.' ∉ encodeText header.compact := Base64Url.point_not_mem _
  have hbody : '.' ∉ encodeText claims.toJson.compact := Base64Url.point_not_mem _
  have hsignature : '.' ∉ sign secret (message claims) := Base64Url.point_not_mem _
  have hmessage : message claims ++ '.' :: sign secret (message claims)
      = encodeText header.compact ++ '.' :: (encodeText claims.toJson.compact
        ++ '.' :: sign secret (message claims)) := List.append_assoc _ _ _
  -- the parts have no point in them, so the two points are where it is split
  rw [hmessage, List.splitOn_append_cons_self_of_not_mem hheader,
    List.splitOn_append_cons_self_of_not_mem hbody, List.splitOn_eq_singleton hsignature]

/-- Claims that expire later are good; nothing else is checked but that they name no audience. -/
theorem checkClaims_later {claims : Claims} {now : Nat}
    (hlater : (now : Int) < claims.expiresAt.toInt) : checkClaims claims .null now = .ok () := by
  have hsince : ¬ claims.expiresAt.toInt < 0 := by omega
  have hgood : ¬ claims.expiresAt.toInt < now - leeway := by
    unfold leeway
    omega
  unfold checkClaims
  simp only [if_neg hsince, if_neg hgood]
  rfl

end Jwt

/-- Claims that are issued for a principal name that principal. -/
theorem Claims.principal_of_issue {principal : Principal} {hours : UInt64} {start : Int}
    {claims : Claims} (h : Claims.issue principal hours start = .ok claims) :
    claims.principal = principal := by
  unfold Claims.issue at h
  obtain ⟨length, -, h⟩ := bind_eq_ok.1 h
  simp only at h
  split at h
  · cases h
  · cases h
    rfl

/-- **Sessions round-trip.** For claims that expire later than they are validated, seconds being
counted from 1970, and any secret but the empty one, a token is issued, it is made up of three
segments of base64url, and validating it gives the claims back, and with them the principal that
they have been issued for. -/
theorem claims_carried (claims : Claims) {secret : String} (hsecret : secret ≠ "") {now : Nat}
    (hlater : (now : Int) < claims.expiresAt.toInt) :
    ∃ token, Jwt.encode claims secret = .ok token
      ∧ (∃ header body signature, token.toList.splitOn '.' = [header, body, signature]
        ∧ Jwt.IsSegment header ∧ Jwt.IsSegment body ∧ Jwt.IsSegment signature)
      ∧ Jwt.decode token secret now = .ok claims
      ∧ ∀ principal hours start, Claims.issue principal hours start = .ok claims →
        claims.principal = principal := by
  have hencode : Jwt.encode claims secret = .ok (String.ofList
      (Jwt.message claims ++ '.' :: Jwt.sign secret (Jwt.message claims))) := if_neg hsecret
  refine ⟨_, hencode, ?_, ?_, fun principal hours start h => Claims.principal_of_issue h⟩
  · rw [String.toList_ofList]
    exact ⟨_, _, _, Jwt.splitOn_token claims secret, Jwt.isSegment_encode _,
      Jwt.isSegment_encode _, Jwt.isSegment_encode _⟩
  · -- validating parts the token, compares the signature and reads the claims, and then only the
    -- time is left
    unfold Jwt.decode
    rw [if_neg hsecret, String.toList_ofList, Jwt.check_message, Jwt.checkClaims_later hlater]
    rfl

/-- A session of one hour, validated in its last second. -/
theorem claims_carried_hour :
    ∃ claims token, Claims.issue ⟨"ada", "github", "org-a", "eng,ops"⟩ 1 1700000000 = .ok claims
      ∧ Jwt.encode claims "s3cret" = .ok token
      ∧ Jwt.decode token "s3cret" (1700003599 : Nat) = .ok claims
      ∧ claims.principal = ⟨"ada", "github", "org-a", "eng,ops"⟩ := by
  have hissue : Claims.issue ⟨"ada", "github", "org-a", "eng,ops"⟩ 1 1700000000
      = .ok ⟨"ada", "github", "org-a", "eng,ops", 1700003600, 1700000000⟩ := rfl
  have hsecret : ("s3cret" : String) ≠ "" := by decide
  have hlater : ((1700003599 : Nat) : Int) < (1700003600 : Int64).toInt := by decide
  obtain ⟨token, hencode, -, hdecode, hprincipal⟩ := claims_carried
    ⟨"ada", "github", "org-a", "eng,ops", 1700003600, 1700000000⟩ hsecret hlater
  exact ⟨_, token, hissue, hencode, hdecode, hprincipal _ _ _ hissue⟩

end TenantConsole
