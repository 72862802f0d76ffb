import DepGraph.Log.Line
import DepGraph.Proofs.Text.Replaced
import Mathlib.Data.List.Forall2
import Mathlib.Data.List.TakeWhile

/-!
# Logins in log lines

A log leaves logins out: where a scheme and `://` come before something without slashes, at signs
and blanks, and that comes before an at sign, everything from the slashes to the at sign is left out
(`DepGraph.Log.LeavesOut`). A text is gone through once, from left to right, and what comes after a
login that was left out is not put together with what came before it.

So there can be a login afterwards: one that stood right behind another one
(`DepGraph.Log.LeavesOut.hasLogin_iff`), as in an address whose password has an at sign. Of
`https://user:p@ss@host/x` the log shows `https://ss@host/x`. There is no other way for a login to
reach the log, and where there is none, leaving logins out once more makes no difference
(`DepGraph.Log.clears_stripLogins`).
-/

namespace DepGraph

namespace Log

/-! ### Addresses with a login -/

/-- The at sign behind a login. -/
def atSign : CodePoint := .ofChar '@'

/-- A **scheme** is a letter, and after it letters, digits, plus signs, dots and hyphens. -/
structure IsScheme (scheme : Text) : Prop where
  /-- A letter comes first. -/
  letter : ∃ first more, scheme = first :: more ∧ isWhere Char.isAlpha first = true
  /-- Each code point may stand in a scheme. -/
  chars : ∀ p ∈ scheme, isWhere isSchemeChar p = true

/-- A **login** is something without slashes, at signs and blanks. -/
structure IsLogin (login : Text) : Prop where
  /-- There is something. -/
  ne_nil : login ≠ []
  /-- None of it ends a login. -/
  chars : ∀ p ∈ login, endsLogin p = false

/-- A text **opens** with a login and an at sign. -/
def Opens (t : Text) : Prop := ∃ login rest, IsLogin login ∧ t = login ++ atSign :: rest

/-- A text **opens twice** if another login and at sign follow the first ones. -/
def OpensTwice (t : Text) : Prop :=
  ∃ login rest, IsLogin login ∧ t = login ++ atSign :: rest ∧ Opens rest

/-- A text **starts** with a scheme and `://` and goes on in this way. -/
def Starts (kind : Text → Prop) (t : Text) : Prop :=
  ∃ scheme rest, IsScheme scheme ∧ t = scheme ++ schemeEnd ++ rest ∧ kind rest

/-- A text **holds** a scheme and `://` somewhere, and goes on from there in this way. -/
def Holds (kind : Text → Prop) (t : Text) : Prop :=
  ∃ front rest, t = front ++ rest ∧ Starts kind rest

/-- A text **has a login** if it holds a scheme and `://` that a login and an at sign follow. -/
def HasLogin : Text → Prop := Holds Opens

/-- A text is **twofold** if it holds a scheme and `://` that two logins and at signs follow. -/
def IsTwofold : Text → Prop := Holds OpensTwice

section CodePoints

variable {p : CodePoint} {c : Char}

/-- A colon and two slashes follow a scheme. -/
theorem schemeEnd_append (t : Text) :
    schemeEnd ++ t = .ofChar ':' :: .ofChar '/' :: .ofChar '/' :: t := by
  rw [show schemeEnd = [.ofChar ':', .ofChar '/', .ofChar '/'] by decide]
  rfl

/-- What may stand in a scheme comes neither before the plus sign nor after the last letter. -/
theorem toNat_of_isSchemeChar (h : isSchemeChar c = true) : 43 ≤ c.toNat ∧ c.toNat ≤ 122 := by
  have number : c.val.toNat = c.toNat := rfl
  rw [isSchemeChar] at h
  delta Char.isAlphanum Char.isAlpha Char.isUpper Char.isLower Char.isDigit at h
  simp [UInt32.le_iff_toNat_le, number, ← Char.toNat_inj] at h
  omega

/-- What may stand in a scheme does not end a login. -/
theorem endsLogin_of_isSchemeChar (h : isWhere isSchemeChar p = true) : endsLogin p = false := by
  rw [isWhere] at h
  rw [endsLogin, isWhere]
  cases hp : p.char? with
  | none => rfl
  | some c =>
    have inScheme : isSchemeChar c = true := by simpa [hp] using h
    have blank : Text.isBlank c = false := by
      refine Bool.eq_false_iff.mpr fun blank => ?_
      obtain ⟨r, hr, low, high⟩ := inRanges_iff.mp blank
      have apart : ∀ r ∈ Text.blankRanges, r.2 < 43 ∨ 122 < r.1 := by decide
      have bounds := toNat_of_isSchemeChar inScheme
      have := apart r hr
      omega
    have slash : c ≠ '/' := by
      rintro rfl
      exact absurd inScheme (by decide)
    have sign : c ≠ '@' := by
      rintro rfl
      exact absurd inScheme (by decide)
    simp [blank, slash, sign]

end CodePoints

section Texts

variable {kind : Text → Prop} {t rest rest' scheme scheme' login login' : Text} {p : CodePoint}

/-- A text ends in one way after what may stand in a scheme and `://`. -/
theorem eq_of_append_schemeEnd (inner : ∀ p ∈ scheme, isWhere isSchemeChar p = true)
    (inner' : ∀ p ∈ scheme', isWhere isSchemeChar p = true)
    (same : scheme ++ schemeEnd ++ rest = scheme' ++ schemeEnd ++ rest') :
    scheme = scheme' ∧ rest = rest' := by
  simp only [List.append_assoc, schemeEnd_append] at same
  obtain ⟨schemes, -, rests⟩ := Text.eq_of_append_cons inner inner' (by decide) (by decide) same
  exact ⟨schemes, by simpa using rests⟩

/-- A text is split in one way by the first code point that ends a login. -/
theorem eq_of_append_ends {q : CodePoint} (chars : ∀ p ∈ login, endsLogin p = false)
    (chars' : ∀ p ∈ login', endsLogin p = false) (ends : ¬endsLogin p = false)
    (ends' : ¬endsLogin q = false) (same : login ++ p :: rest = login' ++ q :: rest') :
    login = login' ∧ p = q ∧ rest = rest' :=
  Text.eq_of_append_cons (P := fun p => endsLogin p = false) chars chars' ends ends' same

/-- A text starts with a letter if it starts with a scheme. -/
theorem Starts.letter (starts : Starts kind (p :: t)) : isWhere Char.isAlpha p = true := by
  obtain ⟨_, rest, ⟨⟨first, more, rfl, letter⟩, -⟩, same, -⟩ := starts
  obtain ⟨rfl, -⟩ := List.cons.inj same
  exact letter

/-- What starts with two logins on end starts with one. -/
theorem Starts.opens (starts : Starts OpensTwice t) : Starts Opens t := by
  obtain ⟨scheme, _, inner, rfl, login, rest, inner', rfl, -⟩ := starts
  exact ⟨scheme, _, inner, rfl, login, rest, inner', rfl⟩

/-- A text **closes** a login if an at sign is the first in it that ends one. -/
def Closes (t : Text) : Prop :=
  ∃ front rest, (∀ p ∈ front, endsLogin p = false) ∧ t = front ++ atSign :: rest

/-- What opens with a login closes it. -/
theorem Opens.closes (opens : Opens t) : Closes t := by
  obtain ⟨login, rest, inner, rfl⟩ := opens
  exact ⟨login, rest, inner.chars, rfl⟩

/-- The at sign comes first, or after something that does not end a login. -/
theorem closes_cons : Closes (p :: t) ↔ p = atSign ∨ endsLogin p = false ∧ Closes t := by
  constructor
  · rintro ⟨front, rest, inner, same⟩
    cases front with
    | nil => exact Or.inl (List.cons.inj same).1
    | cons q front =>
      obtain ⟨rfl, rfl⟩ := List.cons.inj same
      obtain ⟨first, inner⟩ := List.forall_mem_cons.mp inner
      exact Or.inr ⟨first, front, rest, inner, rfl⟩
  · rintro (rfl | ⟨first, front, rest, inner, rfl⟩)
    · exact ⟨[], t, List.forall_mem_nil _, rfl⟩
    · exact ⟨p :: front, rest, List.forall_mem_cons.mpr ⟨first, inner⟩, rfl⟩

/-- A login has something before the at sign. -/
theorem opens_cons : Opens (p :: t) ↔ endsLogin p = false ∧ Closes t := by
  constructor
  · rintro ⟨login, rest, inner, same⟩
    cases login with
    | nil => exact absurd rfl inner.ne_nil
    | cons q front =>
      obtain ⟨rfl, rfl⟩ := List.cons.inj same
      obtain ⟨first, chars⟩ := List.forall_mem_cons.mp inner.chars
      exact ⟨first, front, rest, chars, rfl⟩
  · rintro ⟨first, front, rest, inner, rfl⟩
    exact ⟨p :: front, rest, ⟨List.cons_ne_nil _ _, List.forall_mem_cons.mpr ⟨first, inner⟩⟩, rfl⟩

/-- **No at sign closes a login before a scheme and `://`**, as the slash would come first. -/
theorem not_closes_address (inner : IsScheme scheme) : ¬Closes (scheme ++ schemeEnd ++ rest) := by
  rintro ⟨front, after, chars, same⟩
  have upToSlash : ∀ p ∈ scheme ++ [.ofChar ':'], endsLogin p = false := fun p hp => by
    rcases List.mem_append.mp hp with hp | hp
    · exact endsLogin_of_isSchemeChar (inner.chars p hp)
    · obtain rfl := List.mem_singleton.mp hp
      decide
  have slashes : (scheme ++ [.ofChar ':']) ++ .ofChar '/' :: .ofChar '/' :: rest =
      front ++ atSign :: after := by
    rw [← same, List.append_assoc, List.append_assoc, schemeEnd_append]
    rfl
  obtain ⟨-, sign, -⟩ := eq_of_append_ends upToSlash chars (by decide) (by decide) slashes
  exact absurd sign (by decide)

/-- What closes a login does not start with a scheme and `://`. -/
theorem Closes.not_starts (closes : Closes t) : ¬Starts kind t := by
  rintro ⟨scheme, rest, inner, rfl, -⟩
  exact not_closes_address inner closes

/-- There is nothing in an empty text. -/
theorem not_holds_nil : ¬Holds kind [] := by
  rintro ⟨front, rest, nothing, _, rest', ⟨⟨first, more, rfl, -⟩, -⟩, rfl, -⟩
  simp at nothing

/-- What a text holds is at its start or after that. -/
theorem holds_cons : Holds kind (p :: t) ↔ Starts kind (p :: t) ∨ Holds kind t := by
  constructor
  · rintro ⟨front, rest, same, starts⟩
    cases front with
    | nil => exact Or.inl (by rwa [same])
    | cons q front => exact Or.inr ⟨front, rest, (List.cons.inj same).2, starts⟩
  · rintro (starts | ⟨front, rest, rfl, starts⟩)
    · exact ⟨[], _, rfl, starts⟩
    · exact ⟨p :: front, rest, rfl, starts⟩

/-- Nothing that is held starts with something other than a letter. -/
theorem holds_cons_of_not_letter (other : ¬isWhere Char.isAlpha p = true) :
    Holds kind (p :: t) ↔ Holds kind t := by
  rw [holds_cons]
  exact or_iff_right fun starts => other starts.letter

/-- What an address holds is what follows its `://`, or after that. -/
theorem holds_address (inner : IsScheme scheme) :
    Holds kind (scheme ++ schemeEnd ++ rest) ↔ kind rest ∨ Holds kind rest := by
  have onward (more : Text) (chars : ∀ p ∈ more, isWhere isSchemeChar p = true)
      (holds : Holds kind (more ++ schemeEnd ++ rest)) : kind rest ∨ Holds kind rest := by
    induction more with
    | nil =>
      -- neither the colon nor the slashes are letters
      rw [List.nil_append, schemeEnd_append, holds_cons_of_not_letter (by decide),
        holds_cons_of_not_letter (by decide), holds_cons_of_not_letter (by decide)] at holds
      exact Or.inr holds
    | cons p more ih =>
      rcases holds_cons.mp holds with ⟨scheme', rest', inner', same, good⟩ | holds
      · obtain ⟨-, rfl⟩ := eq_of_append_schemeEnd chars inner'.chars same
        exact Or.inl good
      · exact ih (List.forall_mem_cons.mp chars).2 holds
  refine ⟨onward scheme inner.chars, ?_⟩
  rintro (good | ⟨front, after, rfl, starts⟩)
  · exact ⟨[], _, rfl, scheme, rest, inner, rfl, good⟩
  · exact ⟨scheme ++ schemeEnd ++ front, after, by simp, starts⟩

/-- In a login there is nothing. -/
theorem holds_login (chars : ∀ p ∈ login, endsLogin p = false) :
    Holds kind (login ++ atSign :: rest) ↔ Holds kind rest := by
  induction login with
  | nil => exact holds_cons_of_not_letter (by decide)
  | cons p login ih =>
    have closes : Closes (p :: login ++ atSign :: rest) := ⟨_, rest, chars, rfl⟩
    rw [← ih (List.forall_mem_cons.mp chars).2, List.cons_append, holds_cons]
    exact or_iff_right closes.not_starts

/-- A login is followed by another one if what comes after its at sign opens with one. -/
theorem opensTwice_iff (inner : IsLogin login) :
    OpensTwice (login ++ atSign :: rest) ↔ Opens rest := by
  constructor
  · rintro ⟨login', rest', inner', same, opens⟩
    obtain ⟨-, -, rfl⟩ := eq_of_append_ends inner.chars inner'.chars (by decide) (by decide) same
    exact opens
  · exact fun opens => ⟨login, rest, inner, rfl, opens⟩

end Texts

/-! ### What is left out -/

/-- A text **leaves out** the logins of another one that are found from left to right. -/
inductive LeavesOut : Text → Text → Prop
  /-- There is nothing to leave out of an empty text. -/
  | nil : LeavesOut [] []
  /-- A login and the at sign are left out after a scheme and `://`. -/
  | login {scheme login rest rest' : Text} (inner : IsScheme scheme) (inner' : IsLogin login)
    (after : LeavesOut rest rest') :
    LeavesOut (scheme ++ schemeEnd ++ (login ++ atSign :: rest)) (scheme ++ schemeEnd ++ rest')
  /-- What does not start with a login stays. -/
  | other {p : CodePoint} {t t' : Text} (apart : ¬Starts Opens (p :: t)) (after : LeavesOut t t') :
    LeavesOut (p :: t) (p :: t')

section LeavingOut

variable {t t' rest scheme login : Text} {p : CodePoint}

/-- The at sign is one code point. -/
theorem isChar_atSign : isChar '@' p = true ↔ p = atSign := by
  rw [isChar, beq_iff_eq]
  refine ⟨fun same => ?_, fun same => same ▸ rfl⟩
  obtain ⟨n, bound⟩ := p
  obtain rfl : n = '@'.toNat := same
  rfl

/-- A login behind a scheme is found. -/
theorem loginAfterScheme_append (inner : IsScheme scheme) (inner' : IsLogin login) :
    loginAfterScheme (scheme ++ schemeEnd ++ (login ++ atSign :: rest)) =
      some (scheme ++ schemeEnd, scheme.length + 3 + login.length) := by
  obtain ⟨first, more, rfl, letter⟩ := inner.letter
  have before : ((first :: more) ++ (schemeEnd ++ (login ++ atSign :: rest))).takeWhile
      (isWhere isSchemeChar) = first :: more := by
    rw [schemeEnd_append]
    exact Text.takeWhile_append_cons _ inner.chars (by decide)
  have between : (login ++ atSign :: rest).takeWhile (fun p => !endsLogin p) = login :=
    Text.takeWhile_append_cons rest (fun p hp => by rw [inner'.chars p hp]; rfl) (by decide)
  have three : schemeEnd.length = 3 := by decide
  rw [List.append_assoc, List.cons_append, loginAfterScheme, ← List.cons_append, before,
    List.drop_left, ← three, List.take_left, List.drop_left, between, List.drop_left]
  simp [letter, inner'.ne_nil, isChar_atSign]

/-- A letter may stand in a scheme. -/
theorem isSchemeChar_of_isAlpha (letter : isWhere Char.isAlpha p = true) :
    isWhere isSchemeChar p = true := by
  rw [isWhere] at letter ⊢
  cases hp : p.char? with
  | none => simp [hp] at letter
  | some c =>
    have letter : c.isAlpha = true := by simpa [hp] using letter
    simp [isSchemeChar, Char.isAlphanum, letter]

/-- An at sign that is looked for is there. -/
theorem exists_of_head? (sign : (t.head?.map (isChar '@')).getD false = true) :
    ∃ rest, t = atSign :: rest := by
  cases t with
  | nil => cases sign
  | cons p rest =>
    obtain rfl := isChar_atSign.mp sign
    exact ⟨rest, rfl⟩

/-- Nothing else is found. -/
theorem loginAfterScheme_eq_none (apart : ¬Starts Opens t) : loginAfterScheme t = none := by
  cases t with
  | nil => rfl
  | cons first t =>
    rw [loginAfterScheme]
    refine if_neg fun found => apart ?_
    simp only [Bool.and_eq_true, beq_iff_eq, bne_iff_ne] at found
    obtain ⟨⟨⟨letter, ending⟩, filled⟩, sign⟩ := found
    obtain ⟨rest, behind⟩ := exists_of_head? sign
    have one : (first :: t).takeWhile (isWhere isSchemeChar) =
        first :: t.takeWhile (isWhere isSchemeChar) :=
      List.takeWhile_cons_of_pos (isSchemeChar_of_isAlpha letter)
    -- the parts that were looked at make up the text
    have opens : Opens (((first :: t).drop
        ((first :: t).takeWhile (isWhere isSchemeChar)).length).drop 3) := by
      refine ⟨_, rest, ⟨filled, fun p hp => by simpa using List.mem_takeWhile_imp hp⟩, ?_⟩
      rw [← behind, List.prefix_iff_eq_append.mp (List.takeWhile_prefix _)]
    refine ⟨_, _, ⟨⟨first, _, one, letter⟩, fun p hp => List.mem_takeWhile_imp hp⟩, ?_, opens⟩
    rw [← ending, List.append_assoc, List.take_append_drop,
      List.prefix_iff_eq_append.mp (List.takeWhile_prefix _)]

/-- **Logins are left out as they are found.** -/
theorem leavesOut_replaceEach (t : Text) : LeavesOut t (Text.replaceEach loginAfterScheme t) := by
  fun_induction Text.replaceEach loginAfterScheme t with
  | case1 => exact .nil
  | case2 a as new more found ih =>
    by_cases starts : Starts Opens (a :: as)
    · obtain ⟨scheme, _, inner, same, login, rest, inner', rfl⟩ := starts
      rw [same, loginAfterScheme_append inner inner'] at found
      obtain ⟨rfl, rfl⟩ := Prod.mk.inj (Option.some.inj found)
      have count : (scheme ++ schemeEnd ++ login ++ [atSign]).length =
          scheme.length + 3 + login.length + 1 := by
        have three : schemeEnd.length = 3 := by decide
        simp only [List.length_append, three, List.length_singleton]
      have whole : a :: as = (scheme ++ schemeEnd ++ login ++ [atSign]) ++ rest := by
        simpa using same
      have left : as.drop (scheme.length + 3 + login.length) = rest := by
        rw [← List.drop_succ_cons (a := a), whole, ← count, List.drop_left]
      rw [left] at ih ⊢
      rw [same]
      exact .login inner inner' ih
    · rw [loginAfterScheme_eq_none starts] at found
      cases found
  | case3 a as missed ih =>
    refine .other (fun starts => ?_) ih
    obtain ⟨scheme, _, inner, same, login, rest, inner', rfl⟩ := starts
    rw [same, loginAfterScheme_append inner inner'] at missed
    cases missed

namespace LeavesOut

/-- A text does not get longer. -/
theorem length_le (leaves : LeavesOut t t') : t'.length ≤ t.length := by
  induction leaves with
  | nil => rfl
  | login inner inner' after ih =>
    simp only [List.length_append, List.length_cons]
    omega
  | other apart after ih => exact Nat.succ_le_succ ih

/-- What starts with something other than a letter did so before. -/
theorem exists_of_cons (leaves : LeavesOut t (p :: rest)) (other : ¬isWhere Char.isAlpha p = true) :
    ∃ t', t = p :: t' ∧ LeavesOut t' rest := by
  generalize same : p :: rest = text at leaves
  cases leaves with
  | nil => cases same
  | login inner inner' after =>
    obtain ⟨first, more, rfl, letter⟩ := inner.letter
    obtain ⟨rfl, -⟩ := List.cons.inj same
    exact absurd letter other
  | other apart after =>
    obtain ⟨rfl, rfl⟩ := List.cons.inj same
    exact ⟨_, rfl, after⟩

/-- A text closes a login if it did so before. -/
theorem closes_iff (leaves : LeavesOut t t') : Closes t' ↔ Closes t := by
  induction leaves with
  | nil => rfl
  | login inner inner' after ih =>
    -- neither of the texts does, as both start with a scheme
    exact iff_of_false (not_closes_address inner) (not_closes_address inner)
  | other apart after ih => rw [closes_cons, closes_cons, ih]

/-- A text opens with a login if it did so before. -/
theorem opens_iff (leaves : LeavesOut t t') : Opens t' ↔ Opens t := by
  cases leaves with
  | nil => rfl
  | login inner inner' after =>
    exact iff_of_false (fun opens => not_closes_address inner opens.closes)
      (fun opens => not_closes_address inner opens.closes)
  | other apart after => rw [opens_cons, opens_cons, after.closes_iff]

/-- What may stand in a scheme, `://` and a login stood there before. -/
theorem exists_of_append (leaves : LeavesOut t t')
    (chars : ∀ p ∈ scheme, isWhere isSchemeChar p = true) (same : t' = scheme ++ schemeEnd ++ rest)
    (opens : Opens rest) : ∃ rest', t = scheme ++ schemeEnd ++ rest' ∧ Opens rest' := by
  -- one code point less of the scheme at each step; a login that is found on the way is behind the
  -- end of the same scheme
  induction leaves generalizing scheme with
  | nil => simp [schemeEnd_append] at same
  | login inner inner' after ih =>
    obtain ⟨rfl, rfl⟩ := eq_of_append_schemeEnd inner.chars chars same
    exact ⟨_, rfl, _, _, inner', rfl⟩
  | other apart after ih =>
    cases scheme with
    | nil =>
      rw [List.nil_append, schemeEnd_append] at same
      obtain ⟨rfl, rfl⟩ := List.cons.inj same
      obtain ⟨_, rfl, slash⟩ := after.exists_of_cons (by decide)
      obtain ⟨rest', rfl, leaves⟩ := slash.exists_of_cons (by decide)
      exact ⟨rest', (schemeEnd_append rest').symm, leaves.opens_iff.mp opens⟩
    | cons p scheme =>
      obtain ⟨rfl, tails⟩ := List.cons.inj same
      obtain ⟨rest', rfl, opens⟩ := ih (List.forall_mem_cons.mp chars).2 tails
      exact ⟨rest', rfl, opens⟩

/-- What starts with a scheme, `://` and a login did so before. -/
theorem starts (leaves : LeavesOut t t') (starts : Starts Opens t') : Starts Opens t := by
  obtain ⟨scheme, rest, inner, same, opens⟩ := starts
  obtain ⟨rest', same, opens⟩ := leaves.exists_of_append inner.chars same opens
  exact ⟨scheme, rest', inner, same, opens⟩

/-- **There is a login afterwards exactly if there were two on end.** -/
theorem hasLogin_iff (leaves : LeavesOut t t') : HasLogin t' ↔ IsTwofold t := by
  rw [HasLogin, IsTwofold]
  induction leaves with
  | nil => exact iff_of_false not_holds_nil not_holds_nil
  | login inner inner' after ih =>
    -- what follows the scheme now is what followed the login before
    rw [holds_address inner, holds_address inner, opensTwice_iff inner', holds_login inner'.chars,
      after.opens_iff, ih]
  | @other p t t' apart after ih =>
    -- nothing starts here, neither now nor before
    have now : ¬Starts Opens (p :: t') := fun begins =>
      apart ((LeavesOut.other apart after).starts begins)
    have before : ¬Starts OpensTwice (p :: t) := fun begins => apart begins.opens
    rw [holds_cons, holds_cons, or_iff_right now, or_iff_right before, ih]

/-- A text stays as it is if it has no login. -/
theorem eq_iff (leaves : LeavesOut t t') : t' = t ↔ ¬HasLogin t := by
  rw [HasLogin]
  induction leaves with
  | nil => exact iff_of_true rfl not_holds_nil
  | login inner inner' after ih =>
    refine iff_of_false (fun same => ?_) (not_not.mpr ?_)
    -- the text is shorter now, by the at sign at least
    · have shorter := after.length_le
      have lengths := congrArg List.length same
      simp only [List.length_append, List.length_cons] at lengths
      omega
    · exact ⟨[], _, rfl, _, _, inner, rfl, _, _, inner', rfl⟩
  | other apart after ih => rw [holds_cons, or_iff_right apart, ← ih, List.cons_inj_right]

end LeavesOut

end LeavingOut

/-! ### Fields -/

/-- A field is **cleared** of the logins in another one. -/
structure Clears (before after : Text × Json) : Prop where
  /-- The name stays. -/
  name : after.1 = before.1
  /-- A value other than a text stays. -/
  value : (∀ t, before.2 ≠ .str t) → after.2 = before.2
  /-- Logins are left out of a text. It stays if there are none, and has one afterwards if it was
  twofold. -/
  text : ∀ t, before.2 = .str t → ∃ t', after.2 = .str t' ∧ LeavesOut t t' ∧
    (t' = t ↔ ¬HasLogin t) ∧ (HasLogin t' ↔ IsTwofold t)

/-- Leaving logins out of its value clears a field. -/
theorem clears_withoutLogins (f : Text × Json) : Clears f (f.1, withoutLogins f.2) := by
  obtain ⟨name, value⟩ := f
  refine ⟨rfl, fun other => ?_, ?_⟩
  · cases value with
    | str t => exact absurd rfl (other t)
    | _ => rfl
  · rintro t rfl
    have leaves := leavesOut_replaceEach t
    exact ⟨_, rfl, leaves, leaves.eq_iff, leaves.hasLogin_iff⟩

/-- Leaving logins out of a value once more makes no difference if it is not twofold. -/
theorem withoutLogins_withoutLogins (value : Json) :
    withoutLogins (withoutLogins value) = withoutLogins value ↔
      ∀ t, value = .str t → ¬IsTwofold t := by
  cases value with
  | str t =>
    have once := leavesOut_replaceEach t
    have again := leavesOut_replaceEach (Text.replaceEach loginAfterScheme t)
    simp only [withoutLogins, Json.str.injEq, forall_eq']
    rw [again.eq_iff, once.hasLogin_iff]
  | _ => simp [withoutLogins]

/-- **Logins are left out of the fields of a log line, but for those right behind another one.**
Names, their order, and values without logins stay. A text has a login afterwards exactly if it was
twofold, and where none was, leaving logins out once more makes no difference. -/
theorem clears_stripLogins (fields : Json.Fields) :
    List.Forall₂ Clears fields (stripLogins fields) ∧
      (stripLogins (stripLogins fields) = stripLogins fields ↔
        ∀ f ∈ fields, ∀ t, f.2 = .str t → ¬IsTwofold t) := by
  constructor
  · rw [stripLogins, List.forall₂_map_right_iff, List.forall₂_same]
    exact fun f _ => clears_withoutLogins f
  · rw [stripLogins, stripLogins, List.map_map, List.map_inj_left]
    refine forall₂_congr fun f _ => ?_
    rw [← withoutLogins_withoutLogins, Function.comp_apply, Prod.mk.injEq]
    exact and_iff_right rfl

/-- An address whose password has an at sign. -/
def twofoldAddress : Text := Text.ofString "https://user:p@ss@host/x"

/-- It is twofold. -/
theorem isTwofold_twofoldAddress : IsTwofold twofoldAddress := by
  have scheme : IsScheme (Text.ofString "https") := ⟨⟨_, _, rfl, by decide⟩, by decide⟩
  have first : IsLogin (Text.ofString "user:p") := ⟨by decide, by decide⟩
  have second : IsLogin (Text.ofString "ss") := ⟨by decide, by decide⟩
  refine ⟨[], _, rfl, _, Text.ofString "user:p@ss@host/x", scheme, by decide, ?_⟩
  exact ⟨_, Text.ofString "ss@host/x", first, by decide, _, Text.ofString "host/x", second,
    by decide⟩

/-- **Not every login is left out.** -/
theorem not_forall_clears :
    ¬∀ (fields : Json.Fields), ∀ f ∈ stripLogins fields, ∀ t, f.2 = .str t → ¬HasLogin t := by
  intro all
  have leaves := leavesOut_replaceEach twofoldAddress
  exact all [(Text.ofString "uri", .str twofoldAddress)] _ (List.mem_singleton_self _) _ rfl
    (leaves.hasLogin_iff.mpr isTwofold_twofoldAddress)

end Log

end DepGraph
