import VpnHub.Program.Auth

/-! The strings of a key-method-2 message can be read from it when their lengths fit into 16
bits, and then only. -/

namespace VpnHub.Protocol.AuthHandler

open BigEndian

/-! ## The reader -/

/-- A length in two bytes, then that many bytes of which the last is zero. The length 0 stands
for the empty string. -/
def readField (bytes : Bytes) : Option (Bytes × Bytes) :=
  if bytes.length < 2 then none
  else
    let n := ofBE (bytes.take 2)
    let rest := bytes.drop 2
    if n = 0 then some ([], rest)
    else if rest.length < n then none
    else if (rest.take n).getLast? = some 0 then some ((rest.take n).dropLast, rest.drop n)
    else none

/-- As many fields one after the other, and what follows them. -/
def readFields : ℕ → Bytes → Option (List Bytes × Bytes)
  | 0, bytes => some ([], bytes)
  | k + 1, bytes =>
    (readField bytes).bind fun field =>
      (readFields k field.2).map fun fields => (field.1 :: fields.1, fields.2)

/-- The four fields of a message and what is left of it, past its prefix of 5 bytes and the 112
random bytes. -/
def readKeyMethod2 (message : Bytes) : Option (List Bytes × Bytes) :=
  readFields 4 (message.drop (5 + 112))

/-! ## One field -/

/-- The length of the string and its final zero fits into 16 bits. -/
def Fits (s : Text) : Prop := (Text.utf8Encode s).length < 65535

instance (s : Text) : Decidable (Fits s) := inferInstanceAs (Decidable (_ < _))

/-- What is written for a string that is not empty. -/
theorem writeAuthString_of_ne {s : Text} (h : s ≠ []) :
    writeAuthString s =
      toBE 2 (((Text.utf8Encode s).length + 1) % 65536) ++ (Text.utf8Encode s ++ [0]) := by
  have hempty : ¬ s.isEmpty = true := by rwa [List.isEmpty_iff]
  simp only [writeAuthString, if_neg hempty, UInt16.toNat_ofNat', List.append_assoc]

theorem ofBE_take_toBE (n : ℕ) (rest : Bytes) :
    ofBE ((toBE 2 n ++ rest).take 2) = n % 65536 := by
  rw [List.take_left' (length_toBE 2 n), ofBE_toBE]
  rfl

theorem drop_toBE (n : ℕ) (rest : Bytes) : (toBE 2 n ++ rest).drop 2 = rest :=
  List.drop_left' (length_toBE 2 n)

theorem not_short_toBE (n : ℕ) (rest : Bytes) : ¬ (toBE 2 n ++ rest).length < 2 := by
  rw [List.length_append, length_toBE]
  omega

theorem readField_write {s : Text} (h : Fits s) (rest : Bytes) :
    readField (writeAuthString s ++ rest) = some (Text.utf8Encode s, rest) := by
  by_cases hs : s = []
  · subst hs
    have hzero : ofBE ((toBE 2 0 ++ rest).take 2) = 0 := ofBE_take_toBE 0 rest
    simp only [writeAuthString, List.isEmpty_nil, if_true, readField,
      if_neg (not_short_toBE 0 rest), hzero, drop_toBE]
    rfl
  · have hn : ((Text.utf8Encode s).length + 1) % 65536 % 65536 =
        (Text.utf8Encode s ++ [0]).length := by
      rw [Fits] at h
      rw [List.length_append, List.length_singleton]
      omega
    have hne : (Text.utf8Encode s ++ [0]).length ≠ 0 := by simp
    have hlen : ¬ (Text.utf8Encode s ++ [0] ++ rest).length <
        (Text.utf8Encode s ++ [0]).length := by
      rw [List.length_append]
      omega
    rw [writeAuthString_of_ne hs, List.append_assoc]
    simp only [readField, if_neg (not_short_toBE _ _), ofBE_take_toBE, hn, drop_toBE,
      if_neg hne, if_neg hlen, List.take_left, List.drop_left, List.getLast?_concat, if_true,
      List.dropLast_concat]

/-- Of a string that is too long no reader finds all bytes: its length is cut. -/
theorem readField_write_long {s : Text} (h : ¬ Fits s) {rest : Bytes} {field : Bytes × Bytes}
    (hread : readField (writeAuthString s ++ rest) = some field) :
    field.1 ≠ Text.utf8Encode s := by
  have hlong : 65535 ≤ (Text.utf8Encode s).length := Nat.le_of_not_lt h
  have hs : s ≠ [] := by
    rintro rfl
    exact absurd hlong (by decide)
  rw [writeAuthString_of_ne hs, List.append_assoc] at hread
  simp only [readField, if_neg (not_short_toBE _ _), ofBE_take_toBE, drop_toBE] at hread
  intro heq
  split at hread
  · cases hread
    rw [← heq] at hlong
    exact Nat.not_succ_le_zero 65534 hlong
  · split at hread
    · cases hread
    · split at hread
      · cases hread
        have hlen := congrArg List.length heq
        rw [List.length_dropLast, List.length_take] at hlen
        omega
      · cases hread

/-! ## All fields -/

theorem readFields_write (texts : List Text) (rest : Bytes) :
    readFields texts.length (texts.flatMap writeAuthString ++ rest) =
      some (texts.map Text.utf8Encode, rest) ↔ ∀ s ∈ texts, Fits s := by
  induction texts with
  | nil => simp [readFields]
  | cons s texts ih =>
      rw [List.forall_mem_cons, ← ih, List.length_cons, List.flatMap_cons, List.append_assoc,
        List.map_cons, readFields]
      by_cases hs : Fits s
      · rw [readField_write hs, Option.bind_some]
        generalize readFields texts.length (texts.flatMap writeAuthString ++ rest) = later
        cases later with
        | none => simp
        | some fields => simp [Prod.ext_iff, hs]
      · refine iff_of_false (fun h => ?_) fun h => hs h.1
        obtain ⟨field, hread, hmap⟩ := Option.bind_eq_some_iff.mp h
        obtain ⟨fields, -, heq⟩ := Option.map_eq_some_iff.mp hmap
        exact readField_write_long hs hread (List.cons.inj (Prod.mk.inj heq).1).1

theorem readKeyMethod2_encode (random : FixedBytes 112) (options : Text)
    (username password : Option Text) (peerInfo : Text) :
    readKeyMethod2 (encodeKeyMethod2 random options username password peerInfo) =
      readFields 4
        ([options, username.getD [], password.getD [], peerInfo].flatMap writeAuthString ++
          []) := by
  have hhead : ([0, 0, 0, 0, 2] ++ random.val : Bytes).length = 5 + 112 := by
    rw [List.length_append, random.property]
    rfl
  have hmessage : encodeKeyMethod2 random options username password peerInfo =
      [0, 0, 0, 0, 2] ++ random.val ++
        ([options, username.getD [], password.getD [], peerInfo].flatMap writeAuthString ++
          []) := by
    simp only [encodeKeyMethod2, List.flatMap_cons, List.flatMap_nil, List.append_assoc,
      List.append_nil]
  rw [readKeyMethod2, hmessage, List.drop_left' hhead]

/-- The four strings of a message are read from it, and nothing is left, exactly when each of
them has fewer than 65535 bytes. -/
theorem readKeyMethod2_encode_iff (random : FixedBytes 112) (options : Text)
    (username password : Option Text) (peerInfo : Text) :
    readKeyMethod2 (encodeKeyMethod2 random options username password peerInfo) =
        some ([options, username.getD [], password.getD [], peerInfo].map Text.utf8Encode, []) ↔
      ∀ s ∈ [options, username.getD [], password.getD [], peerInfo],
        (Text.utf8Encode s).length < 65535 := by
  rw [readKeyMethod2_encode]
  exact readFields_write [options, username.getD [], password.getD [], peerInfo] []

theorem length_utf8Encode_replicate (n : ℕ) :
    (Text.utf8Encode (List.replicate n 'a')).length = n := by
  induction n with
  | zero => rfl
  | succ n ih =>
      rw [List.replicate_succ, Text.utf8Encode, List.flatMap_cons, List.length_append,
        String.length_utf8EncodeChar]
      exact (congrArg (1 + ·) ih).trans (Nat.add_comm 1 n)

/-- A password of 65535 letters: its length is cut to 0. -/
theorem long_password_not_read :
    '\x00' ∉ List.replicate 65535 'a' ∧
      readKeyMethod2 (encodeKeyMethod2 (.zero 112) [] (some []) (some (List.replicate 65535 'a'))
          []) ≠
        some ([[], [], List.replicate 65535 'a', []].map Text.utf8Encode, []) := by
  refine ⟨fun hin => absurd (List.eq_of_mem_replicate hin) (by decide), fun heq => ?_⟩
  rw [readKeyMethod2_encode] at heq
  have hfits := (readFields_write [[], [], List.replicate 65535 'a', []] []).mp heq
    (List.replicate 65535 'a') (by simp only [List.mem_cons, true_or, or_true])
  rw [Fits, length_utf8Encode_replicate] at hfits
  exact absurd hfits (Nat.lt_irrefl _)

end VpnHub.Protocol.AuthHandler
