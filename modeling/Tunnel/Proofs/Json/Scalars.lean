import Tunnel.Json.Skip
import Tunnel.Proofs.Json.Grammar
import Tunnel.Proofs.Text.Numerals

/-!
# Numbers and strings of the grammar

What the readers make of numbers and strings that the grammar allows, with whatever may follow them.
Where a value is left out, it is passed over. Where it is wanted, it is settled by the text itself
what comes of it: a number may be out of range, and a string may hold half a surrogate pair, but
neither hangs on what stands behind.

## Main definitions

* `Json.Settled` — what a reader makes of a text does not hang on what follows it

## Main results

* `Json.skipNumber_append`, `Json.settled_readNumber` — numbers
* `Json.skipString_append`, `Json.readString_settled` — strings
* `Json.readString_spells` — a string is read from every spelling of it
-/

namespace Tunnel.Json

variable {s t rest ds : List Char} {c d : Char} {α β : Type}

/-- What a reader makes of a text: it fails, or it takes the text as a whole, and neither hangs on
what follows. -/
def Settled (run : List Char → Reading α) (v : List Char) : Prop :=
  ∃ result : Except Fault α, ∀ rest, Ends rest → run (v ++ rest) = result.map fun a => (a, rest)

/-! ### Digits -/

theorem Ends.ne_cons (h : Ends rest) (hd : d ∉ [' ', '\t', '\n', '\r', ',', ']', '}'])
    (t : List Char) : rest ≠ d :: t := by
  rintro rfl
  refine hd ?_
  obtain hblank | hmem := h d rfl
  · simp only [isBlank, Bool.or_eq_true, beq_iff_eq] at hblank
    rcases hblank with ((rfl | rfl) | rfl) | rfl <;> decide
  · simp only [List.mem_cons, List.not_mem_nil, or_false] at hmem
    rcases hmem with rfl | rfl | rfl <;> decide

/-- No point and no exponent stands behind a number. -/
theorem Ends.no_more (h : Ends rest) :
    (∀ t, rest ≠ '.' :: t) ∧ (∀ t, rest ≠ 'e' :: t) ∧ ∀ t, rest ≠ 'E' :: t :=
  ⟨h.ne_cons (by decide), h.ne_cons (by decide), h.ne_cons (by decide)⟩

theorem Ends.halts (h : Ends rest) : Text.Halts 10 rest := by
  cases rest with
  | nil => exact Text.halts_nil
  | cons c rest =>
    refine Text.halts_cons (Bool.eq_false_iff.2 fun hdigit => ?_)
    have hbegins : Begins c := .inr hdigit
    obtain hblank | hmem := h c rfl
    · rw [hbegins.not_blank] at hblank
      cases hblank
    · exact hbegins.ne hmem rfl

theorem takeDigits_append (h : Digits ds) (ht : Text.Halts 10 t) :
    takeDigits (ds ++ t) = (ds, t) := by
  have htake : t.takeWhile isDigit = [] := ht.takeWhile_eq
  have hdrop : t.dropWhile isDigit = t := ht.dropWhile_eq
  rw [takeDigits, List.takeWhile_append_of_pos h.2, List.dropWhile_append_of_pos h.2, htake, hdrop,
    List.append_nil]

theorem IsExponent.halts (h : IsExponent s) (hrest : Ends rest) : Text.Halts 10 (s ++ rest) := by
  cases h with
  | absent => exact hrest.halts
  | digits hletter _ _ =>
    refine Text.halts_cons ?_
    simp only [List.mem_cons, List.not_mem_nil, or_false] at hletter
    rcases hletter with rfl | rfl <;> rfl

theorem IsFraction.halts (h : IsFraction s) (ht : Text.Halts 10 t) : Text.Halts 10 (s ++ t) := by
  cases h with
  | absent => exact ht
  | digits _ => exact Text.halts_cons rfl

/-! ### Numbers that are left out -/

theorem skipExponentDigits_append (h : Digits ds) (ht : Text.Halts 10 t) :
    skipExponentDigits (ds ++ t) = .ok t := by
  obtain ⟨d, later, rfl⟩ := List.exists_cons_of_ne_nil h.1
  rw [skipExponentDigits, takeDigits_append h ht]

theorem skipExponent_append {sign : List Char} (hsign : sign ∈ [[], ['+'], ['-']]) (h : Digits ds)
    (hrest : Ends rest) : skipExponent (sign ++ (ds ++ rest)) = .ok rest := by
  have hdigits := skipExponentDigits_append h hrest.halts
  simp only [List.mem_cons, List.not_mem_nil, or_false] at hsign
  rcases hsign with rfl | rfl | rfl
  · obtain ⟨d, later, rfl⟩ := List.exists_cons_of_ne_nil h.1
    have hd : isDigit d = true := h.2 d List.mem_cons_self
    rw [List.nil_append, List.cons_append, skipExponent, ← List.cons_append, hdigits]
    · intro tail heq
      exact ne_of_isDigit hd (d := '+') rfl (List.cons.inj heq).1
    · intro tail heq
      exact ne_of_isDigit hd (d := '-') rfl (List.cons.inj heq).1
  · exact hdigits
  · exact hdigits

theorem skipFraction_append (h : Digits ds) (he : IsExponent s) (hrest : Ends rest) :
    skipFraction (ds ++ (s ++ rest)) = .ok rest := by
  obtain ⟨d, later, rfl⟩ := List.exists_cons_of_ne_nil h.1
  rw [skipFraction, takeDigits_append h (he.halts hrest)]
  cases he with
  | absent => simp [hrest.no_more]
  | digits hletter hsign hds =>
    simp only [List.mem_cons, List.not_mem_nil, or_false] at hletter
    rw [List.cons_append, List.append_assoc]
    rcases hletter with rfl | rfl
    · exact skipExponent_append hsign hds hrest
    · exact skipExponent_append hsign hds hrest

/-- An integer is a single zero, or begins with another digit. -/
theorem IsInteger.cases (h : IsInteger ds) :
    ds = ['0'] ∨ ∃ d later, ds = d :: later ∧ d ≠ '0' := by
  obtain ⟨d, later, rfl⟩ := List.exists_cons_of_ne_nil h.1.1
  by_cases hd : d = '0'
  · exact .inl (h.2 (congrArg some hd))
  · exact .inr ⟨d, later, rfl, hd⟩

/-- No sign is part of an integer: it begins with a digit. -/
theorem IsInteger.unsigned (h : IsInteger ds) : ∃ d later, ds = d :: later ∧ d ≠ '-' := by
  obtain ⟨d, later, rfl⟩ := List.exists_cons_of_ne_nil h.1.1
  have hd : isDigit d = true := h.1.2 d List.mem_cons_self
  exact ⟨d, later, rfl, ne_of_isDigit hd rfl⟩

theorem skipUnsigned_append {integer fraction : List Char} (hinteger : IsInteger integer)
    (hfraction : IsFraction fraction) (he : IsExponent s) (hrest : Ends rest) :
    skipUnsigned (integer ++ (fraction ++ (s ++ rest))) = .ok rest := by
  rw [skipUnsigned, takeDigits_append hinteger.1 (hfraction.halts (he.halts hrest))]
  cases hfraction with
  | digits hds =>
    have htail := skipFraction_append hds he hrest
    obtain rfl | ⟨d, later, rfl, hd⟩ := hinteger.cases
    · simpa using htail
    · simpa [hd] using htail
  | absent =>
    cases he with
    | absent => obtain rfl | ⟨d, later, rfl, hd⟩ := hinteger.cases <;> simp [hrest.no_more, *]
    | digits hletter hsign hds =>
      have htail := skipExponent_append hsign hds hrest
      simp only [List.mem_cons, List.not_mem_nil, or_false] at hletter
      obtain rfl | ⟨d, later, rfl, hd⟩ := hinteger.cases <;> rcases hletter with rfl | rfl
      all_goals simp [*]

/-- A number is passed over. -/
theorem skipNumber_append (h : IsNumber s) (hrest : Ends rest) :
    skipNumber (s ++ rest) = .ok rest := by
  obtain @⟨sign, integer, fraction, exponent, hsign, hinteger, hfraction, he⟩ := h
  have hunsigned := skipUnsigned_append hinteger hfraction he hrest
  simp only [List.mem_cons, List.not_mem_nil, or_false] at hsign
  simp only [List.append_assoc]
  rcases hsign with rfl | rfl
  · obtain ⟨d, later, rfl, hminus⟩ := hinteger.unsigned
    simpa [skipNumber, hminus] using hunsigned
  · exact hunsigned

/-! ### Numbers that are wanted -/

section Wanted

variable (negative : Bool) (x : Significand)

theorem settled_finishFloat : Settled (finishFloat negative x) [] := by
  refine ⟨x.magnitude.map (.floating negative), fun rest _ => ?_⟩
  rw [List.nil_append, finishFloat]
  cases x.magnitude <;> rfl

theorem settled_finishInteger : Settled (finishInteger negative x) [] := by
  obtain ⟨result, hresult⟩ := settled_finishFloat negative x
  simp only [Settled, List.nil_append, finishInteger] at hresult ⊢
  split
  · exact ⟨result, hresult⟩
  · split
    · exact ⟨.ok _, fun _ _ => rfl⟩
    · split
      · exact ⟨result, hresult⟩
      · exact ⟨.ok _, fun _ _ => rfl⟩

theorem settled_readExponent {sign : List Char} (hsign : sign ∈ [[], ['+'], ['-']])
    (h : Digits ds) : Settled (readExponent negative x) (sign ++ ds) := by
  obtain ⟨d, later, rfl⟩ := List.exists_cons_of_ne_nil h.1
  have hd : isDigit d = true := h.2 d List.mem_cons_self
  have hplus : d ≠ '+' := ne_of_isDigit hd rfl
  have hminus : d ≠ '-' := ne_of_isDigit hd rfl
  -- whichever the sign, the digits are counted or are too many to be
  have hcounted : ∀ down : Bool, Settled (fun t =>
      if greatestExponent < Text.numeral 10 (d :: later) then
        if x.value ≠ 0 ∧ !down then .error .numberOutOfRange
        else .ok (.floating negative Binary64.zero, t)
      else finishFloat negative ⟨x.value, if down
        then x.exponent - Text.numeral 10 (d :: later)
        else x.exponent + Text.numeral 10 (d :: later)⟩ t) [] := by
    intro down
    by_cases hgreat : greatestExponent < Text.numeral 10 (d :: later)
    · simp only [if_pos hgreat]
      split
      · exact ⟨.error _, fun _ _ => rfl⟩
      · exact ⟨.ok _, fun _ _ => rfl⟩
    · simp only [if_neg hgreat]
      exact settled_finishFloat negative _
  have htake : ∀ rest, Ends rest → takeDigits (d :: (later ++ rest)) = (d :: later, rest) :=
    fun rest hrest => takeDigits_append h hrest.halts
  obtain ⟨result, hresult⟩ := hcounted (sign == ['-'])
  refine ⟨result, fun rest hrest => ?_⟩
  rw [← hresult rest hrest]
  simp only [List.mem_cons, List.not_mem_nil, or_false] at hsign
  rcases hsign with rfl | rfl | rfl
  · simp [readExponent, hplus, hminus, htake rest hrest]
  · simp [readExponent, htake rest hrest]
  · simp [readExponent, htake rest hrest]

theorem settled_readFraction (h : Digits ds) (he : IsExponent s) :
    Settled (readFraction negative x) (ds ++ s) := by
  have htake : ∀ rest, Ends rest → takeDigits (ds ++ (s ++ rest)) = (ds, s ++ rest) :=
    fun rest hrest => takeDigits_append h (he.halts hrest)
  obtain ⟨d, later, rfl⟩ := List.exists_cons_of_ne_nil h.1
  cases he with
  | absent =>
    obtain ⟨result, hresult⟩ := settled_finishFloat negative (x.withFraction (d :: later))
    refine ⟨result, fun rest hrest => ?_⟩
    rw [← hresult rest hrest, readFraction, List.append_assoc, htake rest hrest]
    simp [hrest.no_more]
  | digits hletter hsign hds =>
    obtain ⟨result, hresult⟩ := settled_readExponent negative
      (x.withFraction (d :: later)) hsign hds
    refine ⟨result, fun rest hrest => ?_⟩
    rw [← hresult rest hrest, readFraction, List.append_assoc, htake rest hrest]
    simp only [List.mem_cons, List.not_mem_nil, or_false] at hletter
    rcases hletter with rfl | rfl <;> rfl

/-- What follows the integer part of a number. -/
theorem settled_readTail {fraction : List Char} (hfraction : IsFraction fraction)
    (he : IsExponent s) : Settled (readTail negative x) (fraction ++ s) := by
  cases hfraction with
  | digits hds => exact settled_readFraction negative x hds he
  | absent =>
    cases he with
    | absent =>
      obtain ⟨result, hresult⟩ := settled_finishInteger negative x
      refine ⟨result, fun rest hrest => ?_⟩
      rw [← hresult rest hrest]
      simp [readTail, hrest.no_more]
    | digits hletter hsign hds =>
      have hsettled := settled_readExponent negative x hsign hds
      simp only [List.mem_cons, List.not_mem_nil, or_false] at hletter
      rcases hletter with rfl | rfl <;> exact hsettled

theorem settled_readUnsigned {integer fraction : List Char} (hinteger : IsInteger integer)
    (hfraction : IsFraction fraction) (he : IsExponent s) :
    Settled (readUnsigned negative) (integer ++ (fraction ++ s)) := by
  obtain ⟨result, hresult⟩ := settled_readTail negative
    (Significand.ofInteger integer) hfraction he
  refine ⟨result, fun rest hrest => ?_⟩
  rw [← hresult rest hrest, readUnsigned, List.append_assoc, List.append_assoc,
    takeDigits_append hinteger.1 (hfraction.halts (he.halts hrest))]
  obtain rfl | ⟨d, later, rfl, hd⟩ := hinteger.cases
  · rfl
  · simp [hd]

/-- **What a number comes to** does not hang on what follows it. -/
theorem settled_readNumber (h : IsNumber s) : Settled readNumber s := by
  obtain @⟨sign, integer, fraction, exponent, hsign, hinteger, hfraction, he⟩ := h
  have hunsigned := settled_readUnsigned (sign == ['-']) hinteger hfraction he
  simp only [List.mem_cons, List.not_mem_nil, or_false] at hsign
  rcases hsign with rfl | rfl
  · obtain ⟨d, later, rfl, hminus⟩ := hinteger.unsigned
    obtain ⟨result, hresult⟩ := hunsigned
    refine ⟨result, fun rest hrest => ?_⟩
    rw [← hresult rest hrest]
    simp [readNumber, hminus]
  · exact hunsigned

end Wanted

/-! ### Strings -/

theorem stringBody_backslash {escape : Reader Char} {after : List Char}
    (h : escape.run s = .ok (c, after)) :
    stringBody escape ('\\' :: s) = (stringBody escape after).cons c := by
  rw [stringBody]
  split
  · next hfault => rw [h] at hfault; cases hfault
  · next hok =>
    rw [h] at hok
    cases hok
    rfl

theorem stringBody_plain {escape : Reader Char} (h : IsPlain c) :
    stringBody escape (c :: s) = (stringBody escape s).cons c := by
  rw [stringBody]
  · rw [if_neg h.2.2]
  · exact h.1
  · exact h.2.1

theorem stringBody_fault {escape : Reader Char} {fault : Fault}
    (h : escape.run s = .error fault) : stringBody escape ('\\' :: s) = .error fault := by
  rw [stringBody]
  split
  · next hfault =>
    rw [h] at hfault
    cases hfault
    rfl
  · next hok =>
    rw [h] at hok
    cases hok

theorem readEscape_letter {numbered : List Char → Reading Char} (h : (c, d) ∈ escapes)
    (rest : List Char) : readEscape numbered (c :: rest) = .ok (d, rest) := by
  simp only [escapes, List.mem_cons, Prod.mk.injEq, List.not_mem_nil, or_false] at h
  rcases h with ⟨rfl, rfl⟩ | ⟨rfl, rfl⟩ | ⟨rfl, rfl⟩ | ⟨rfl, rfl⟩ | ⟨rfl, rfl⟩ | ⟨rfl, rfl⟩ |
    ⟨rfl, rfl⟩ | ⟨rfl, rfl⟩
  all_goals rfl

theorem IsHex4.readHex4_append (h : IsHex4 s) (rest : List Char) :
    readHex4 (s ++ rest) = .ok (Text.numeral 16 s, rest) := by
  have htake : (s ++ rest).take 4 = s := by rw [← h.1, List.take_left]
  have hdrop : (s ++ rest).drop 4 = rest := by rw [← h.1, List.drop_left]
  have hsize := Text.length_le_octetLength s
  have hlength := h.1
  simp only [readHex4, htake, hdrop]
  rw [if_neg (by omega), if_pos ⟨hlength, List.all_eq_true.2 h.2⟩]

/-- The first half of a surrogate pair is no second half of one. -/
theorem isTrailing_eq_false {n : Nat} (h : isLeading n = true) : isTrailing n = false := by
  simp only [isLeading, Bool.and_eq_true, decide_eq_true_eq] at h
  simp only [isTrailing, Bool.and_eq_false_iff, decide_eq_false_iff_not]
  omega

/-- The numbers of a surrogate pair are read as one character. -/
theorem readNumbered_pair {first second : List Char} (hfirst : IsHex4 first)
    (hsecond : IsHex4 second) (hleading : isLeading (Text.numeral 16 first) = true)
    (htrailing : isTrailing (Text.numeral 16 second) = true) (rest : List Char) :
    readNumbered (first ++ '\\' :: 'u' :: (second ++ rest)) =
      .ok (pairChar (Text.numeral 16 first) (Text.numeral 16 second), rest) := by
  rw [readNumbered, hfirst.readHex4_append]
  simp [isTrailing_eq_false hleading, hleading, readTrailing, hsecond.readHex4_append, htrailing]

/-- A string is passed over, up to its closing quote. -/
theorem skipString_append (h : IsBody s) (rest : List Char) :
    skipString (s ++ '"' :: rest) = .ok rest := by
  have hbody : ∃ text, stringBody looseEscape (s ++ '"' :: rest) = .ok (text, rest) := by
    induction h with
    | nil => exact ⟨[], by rw [List.nil_append, stringBody]⟩
    | @plain c s hplain _ ih =>
      obtain ⟨text, htext⟩ := ih
      refine ⟨c :: text, ?_⟩
      rw [List.cons_append, stringBody_plain hplain, htext, Reading.cons]
    | @letter c d s hletter _ ih =>
      obtain ⟨text, htext⟩ := ih
      refine ⟨d :: text, ?_⟩
      rw [List.cons_append, List.cons_append, stringBody_backslash (readEscape_letter hletter _),
        htext, Reading.cons]
    | @numbered four s hfour _ ih =>
      obtain ⟨text, htext⟩ := ih
      refine ⟨'\uFFFD' :: text, ?_⟩
      have hrun : looseEscape.run ('u' :: (four ++ (s ++ '"' :: rest))) =
          .ok ('\uFFFD', s ++ '"' :: rest) := by
        simp only [looseEscape, readEscape, readAnyNumbered, hfour.readHex4_append, Except.map]
      rw [List.cons_append, List.cons_append, List.append_assoc, stringBody_backslash hrun, htext,
        Reading.cons]
  obtain ⟨text, htext⟩ := hbody
  rw [skipString, htext]
  rfl

/-- **A string is read from every spelling of it.** -/
theorem stringBody_spells {text : List Char} (h : Spells s text) (rest : List Char) :
    stringBody strictEscape (s ++ '"' :: rest) = .ok (text, rest) := by
  induction h with
  | nil => rw [List.nil_append, stringBody]
  | plain hplain _ ih =>
    rw [List.cons_append, stringBody_plain hplain, ih, Reading.cons]
  | letter hletter _ ih =>
    rw [List.cons_append, List.cons_append, stringBody_backslash (readEscape_letter hletter _),
      ih, Reading.cons]
  | @numbered four s text hfour htrailing hleading _ ih =>
    have hrun : strictEscape.run ('u' :: (four ++ (s ++ '"' :: rest))) =
        .ok (Char.ofNat (Text.numeral 16 four), s ++ '"' :: rest) := by
      simp [strictEscape, readEscape, readNumbered, hfour.readHex4_append, htrailing, hleading]
    rw [List.cons_append, List.cons_append, List.append_assoc, stringBody_backslash hrun, ih,
      Reading.cons]
  | @paired first second s text hfirst hsecond hleading htrailing _ ih =>
    have hrun : strictEscape.run
        ('u' :: (first ++ '\\' :: 'u' :: (second ++ (s ++ '"' :: rest)))) =
        .ok (pairChar (Text.numeral 16 first) (Text.numeral 16 second), s ++ '"' :: rest) :=
      readNumbered_pair hfirst hsecond hleading htrailing _
    simp only [List.cons_append, List.append_assoc]
    rw [stringBody_backslash hrun, ih, Reading.cons]

theorem readString_spells {text : String} (h : Spells s text.toList) (rest : List Char) :
    readString (s ++ '"' :: rest) = .ok (text, rest) := by
  rw [readString, stringBody_spells h]
  simp [Except.map]

/-- The second half of a surrogate pair is missing, or it is numbered. -/
theorem readTrailing_body (n : Nat) (h : IsBody s) :
    (∃ fault, ∀ rest, readTrailing n (s ++ '"' :: rest) = .error fault) ∨
    ∃ four later, s = '\\' :: 'u' :: (four ++ later) ∧ IsBody later ∧
      ∀ rest, readTrailing n (s ++ '"' :: rest) =
        .ok (pairChar n (Text.numeral 16 four), later ++ '"' :: rest) := by
  cases h with
  | nil => exact .inl ⟨.endOfHexEscape, fun rest => rfl⟩
  | @plain c s hplain _ =>
    refine .inl ⟨.endOfHexEscape, fun rest => ?_⟩
    simp [readTrailing, hplain.2.1]
  | @letter c d s hletter _ =>
    refine .inl ⟨.endOfHexEscape, fun rest => ?_⟩
    have hu : c ≠ 'u' := by
      rintro rfl
      simp [escapes] at hletter
    simp [readTrailing, hu]
  | @numbered four s hfour hbody =>
    cases htrailing : isTrailing (Text.numeral 16 four) with
    | false =>
      refine .inl ⟨.loneSurrogate, fun rest => ?_⟩
      simp [readTrailing, hfour.readHex4_append, htrailing]
    | true =>
      refine .inr ⟨four, s, rfl, hbody, fun rest => ?_⟩
      simp [readTrailing, hfour.readHex4_append, htrailing]

/-- The numbered character at the front of a string is refused, or the string goes on behind it. -/
theorem readNumbered_body {four : List Char} (hfour : IsHex4 four) (h : IsBody s) :
    (∃ fault, ∀ rest, readNumbered (four ++ (s ++ '"' :: rest)) = .error fault) ∨
    ∃ c later, later.length ≤ s.length ∧ IsBody later ∧
      ∀ rest, readNumbered (four ++ (s ++ '"' :: rest)) = .ok (c, later ++ '"' :: rest) := by
  cases htrailing : isTrailing (Text.numeral 16 four) with
  | true =>
    refine .inl ⟨.loneSurrogate, fun rest => ?_⟩
    simp [readNumbered, hfour.readHex4_append, htrailing]
  | false =>
    cases hleading : isLeading (Text.numeral 16 four) with
    | false =>
      refine .inr ⟨Char.ofNat (Text.numeral 16 four), s, Nat.le_refl _, h, fun rest => ?_⟩
      simp [readNumbered, hfour.readHex4_append, htrailing, hleading]
    | true =>
      have hpair : ∀ rest, readNumbered (four ++ (s ++ '"' :: rest)) =
          readTrailing (Text.numeral 16 four) (s ++ '"' :: rest) := fun rest => by
        simp [readNumbered, hfour.readHex4_append, htrailing, hleading]
      simp only [hpair]
      refine (readTrailing_body (Text.numeral 16 four) h).imp_right ?_
      rintro ⟨second, later, rfl, hlater, hrun⟩
      refine ⟨_, later, ?_, hlater, hrun⟩
      simp only [List.length_cons, List.length_append]
      omega

/-- What comes of the characters of a string does not hang on what follows the closing quote. -/
theorem stringBody_settled (h : IsBody s) : ∃ result : Except Fault (List Char), ∀ rest,
    stringBody strictEscape (s ++ '"' :: rest) = result.map fun text => (text, rest) := by
  -- the second half of a surrogate pair is taken with the first: the induction is on the length
  induction hlength : s.length using Nat.strongRecOn generalizing s with
  | ind n ih =>
  subst hlength
  have hcons : ∀ {c : Char} {later : List Char}, IsBody later → later.length < s.length →
      ∃ result : Except Fault (List Char), ∀ rest,
        (stringBody strictEscape (later ++ '"' :: rest)).cons c =
          result.map fun text => (text, rest) := by
    intro c later hlater hlt
    obtain ⟨result, hresult⟩ := ih _ hlt hlater rfl
    refine ⟨result.map (c :: ·), fun rest => ?_⟩
    rw [hresult rest]
    cases result <;> rfl
  cases h with
  | nil => exact ⟨.ok [], fun rest => by rw [List.nil_append, stringBody]; rfl⟩
  | @plain c s hplain hbody =>
    obtain ⟨result, hresult⟩ := hcons (c := c) hbody (Nat.lt_succ_self _)
    refine ⟨result, fun rest => ?_⟩
    rw [List.cons_append, stringBody_plain hplain, hresult rest]
  | @letter c d s hletter hbody =>
    obtain ⟨result, hresult⟩ := hcons (c := d) hbody (Nat.lt_add_of_pos_right (by decide : 0 < 2))
    refine ⟨result, fun rest => ?_⟩
    rw [List.cons_append, List.cons_append, stringBody_backslash (readEscape_letter hletter _),
      hresult rest]
  | @numbered four s hfour hbody =>
    simp only [List.cons_append, List.append_assoc]
    obtain ⟨fault, hfault⟩ | ⟨c, later, hle, hlater, hrun⟩ := readNumbered_body hfour hbody
    · exact ⟨.error fault, fun rest => stringBody_fault (hfault rest)⟩
    · obtain ⟨result, hresult⟩ := hcons (c := c) hlater (by
        simp only [List.length_cons, List.length_append]
        omega)
      refine ⟨result, fun rest => ?_⟩
      rw [stringBody_backslash (hrun rest), hresult rest]

/-- **What comes of a string** does not hang on what follows it. -/
theorem readString_settled (h : IsBody s) : ∃ result : Except Fault String, ∀ rest,
    readString (s ++ '"' :: rest) = result.map fun text => (text, rest) := by
  obtain ⟨result, hresult⟩ := stringBody_settled h
  refine ⟨result.map String.ofList, fun rest => ?_⟩
  rw [readString, hresult rest]
  cases result <;> rfl

end Tunnel.Json
