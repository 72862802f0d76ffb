import DepGraph.Proofs.Log.Logins
import DepGraph.Proofs.Redaction.Secrets

/-!
# Logins in messages

In a message the user of an address is redacted if it is a **pair** of a name and a password
(`DepGraph.Redaction.IsPair`). A log leaves out any user, but a message keeps those that are no
pairs: a token alone, a password without a name, a name with an empty password. They are shown
unless a secret in front of them, in the same run, has taken them in as its value
(`DepGraph.Redaction.givesAway_redact_iff`).

The two passes do not disturb each other. What either one puts into a text starts no address, and
ends none: the value of a secret is followed by a blank, and there is no at sign in front of that
(`DepGraph.Redaction.opening_infix_iff_standsOpen`), while in the opening of an address that is
replaced no other one starts (`DepGraph.Redaction.opening_infix_iff_of_replaced`).
-/

namespace DepGraph.Redaction

/-! ### Addresses with a user -/

/-- What may stand for a user: neither slashes nor at signs nor blanks. -/
def InUser (c : Char) : Prop := c ≠ '/' ∧ c ≠ '@' ∧ Text.isBlank c = false

instance (c : Char) : Decidable (InUser c) :=
  inferInstanceAs (Decidable (c ≠ '/' ∧ c ≠ '@' ∧ Text.isBlank c = false))

/-- A **user** is what stands for one in an address, with a password or without. -/
structure IsUser (user : List Char) : Prop where
  /-- There is something. -/
  ne_nil : user ≠ []
  /-- All of it may stand for a user. -/
  chars : ∀ c ∈ user, InUser c

instance (user : List Char) : Decidable (IsUser user) :=
  decidable_of_iff (user ≠ [] ∧ user.all (InUser ·) = true)
    ⟨fun h => ⟨h.1, by simpa using h.2⟩, fun h => ⟨h.1, by simpa using h.chars⟩⟩

/-- A user is a **pair** if a name and a password are told apart in it by its first colon. -/
def IsPair (user : List Char) : Prop :=
  ∃ name password, name ≠ [] ∧ ':' ∉ name ∧ password ≠ [] ∧ user = name ++ ':' :: password

/-- How an address with a user **opens**, up to its at sign. -/
def opening (user : List Char) : List Char := ':' :: '/' :: '/' :: (user ++ ['@'])

/-- The part of a text that the opening of an address is whose user is a pair. The mark takes its
place. -/
def loginPart : Text.PartKind Char := fun old new _ =>
  ∃ user, IsUser user ∧ IsPair user ∧ old = opening user ∧ new = opening mark

section Addresses

variable {user user' front rest t : List Char} {c : Char}

/-- There is no slash in a user. -/
theorem IsUser.noSlash (inner : IsUser user) : '/' ∉ user := fun slash =>
  (inner.chars _ slash).1 rfl

/-- There is no blank in the opening of an address. -/
theorem IsUser.ink_opening (inner : IsUser user) : IsInk (opening user) := by
  intro c hc
  simp only [opening, List.mem_cons, List.mem_append, List.not_mem_nil, or_false] at hc
  rcases hc with rfl | rfl | rfl | hc | rfl
  · decide
  · decide
  · decide
  · exact (inner.chars c hc).2.2
  · decide

/-- An opening ends with its at sign. -/
theorem opening_eq : opening user = (':' :: '/' :: '/' :: user) ++ ['@'] := rfl

/-- An opening does not start in front of something other than two slashes. -/
theorem not_starts_opening (other : t.head? ≠ some '/') : ¬opening user <+: c :: t := by
  rintro ⟨rest, same⟩
  obtain ⟨-, rfl⟩ := List.cons.inj same
  exact other rfl

/-- No address opens where no colon is. -/
theorem opening_infix_append_of_noColon (plain : ':' ∉ front) :
    opening user <:+: front ++ t ↔ opening user <:+: t := by
  induction front with
  | nil => rfl
  | cons c front ih =>
    rw [List.cons_append, List.infix_cons_iff, ih fun colon => plain (List.mem_cons_of_mem _ colon)]
    refine or_iff_right fun start => plain ?_
    rw [(List.cons_prefix_cons.mp start).1]
    exact List.mem_cons_self

/-- Nor where no slash is, up to an at sign. -/
theorem opening_infix_append (plain : '/' ∉ front) :
    opening user <:+: front ++ '@' :: rest ↔ opening user <:+: rest := by
  induction front with
  | nil =>
    rw [List.nil_append, List.infix_cons_iff]
    refine or_iff_right fun start => ?_
    exact absurd (List.cons_prefix_cons.mp start).1 (by decide)
  | cons c front ih =>
    rw [List.cons_append, List.infix_cons_iff, ih fun slash => plain (List.mem_cons_of_mem _ slash)]
    refine or_iff_right (not_starts_opening ?_)
    cases front with
    | nil => simp
    | cons d front =>
      have other : d ≠ '/' := fun slash => plain (by simp [slash])
      simpa using other

/-- **Behind the opening of an address** there is what follows it. -/
theorem opening_infix_opening (inner : IsUser user) (inner' : IsUser user') :
    opening user <:+: opening user' ++ rest ↔ user = user' ∨ opening user <:+: rest := by
  have text : opening user' ++ rest = ':' :: '/' :: '/' :: (user' ++ '@' :: rest) := by
    simp [opening]
  have slash (t : List Char) : ¬opening user <+: '/' :: t := fun start =>
    absurd (List.cons_prefix_cons.mp start).1 (by decide)
  rw [text, List.infix_cons_iff, List.infix_cons_iff, List.infix_cons_iff,
    opening_infix_append inner'.noSlash]
  rw [or_iff_right (slash _), or_iff_right (slash _)]
  refine or_congr_left ⟨?_, ?_⟩
  · rintro ⟨more, same⟩
    have same : user ++ '@' :: more = user' ++ '@' :: rest := by simpa [opening] using same
    exact (Text.eq_of_append_cons inner.chars inner'.chars (by decide) (by decide) same).1
  · rintro rfl
    exact ⟨rest, by simp [opening]⟩

end Addresses

/-! ### Pairs -/

section Pairs

variable {user rest t t' : List Char} {c : Char}

/-- What a name in a pair is made of. -/
theorem inName_iff : (!(c == '/' || c == ':' || c == '@' || Text.isBlank c)) = true ↔
    InUser c ∧ c ≠ ':' := by
  simp only [Bool.not_eq_true', Bool.or_eq_false_iff, beq_eq_false_iff_ne, InUser]
  tauto

/-- What a password in a pair is made of. -/
theorem inPassword_iff : (!(c == '/' || c == '@' || Text.isBlank c)) = true ↔ InUser c := by
  simp [InUser, and_assoc]

/-- **A pair is found** in the opening of an address. -/
theorem login_opening (inner : IsUser user) (pair : IsPair user) :
    login (opening user ++ rest) = some (opening mark, (opening user).length - 1) := by
  obtain ⟨name, password, filled, plain, filled', rfl⟩ := pair
  have text : opening (name ++ ':' :: password) ++ rest =
      ':' :: '/' :: '/' :: (name ++ ':' :: (password ++ '@' :: rest)) := by
    simp [opening]
  have upToColon := Text.takeWhile_append_cons (a := ':') (password ++ '@' :: rest)
    (fun c hc => inName_iff.mpr ⟨inner.chars c (List.mem_append_left _ hc), fun same =>
      plain (same ▸ hc)⟩) (by decide)
  have upToSign := Text.takeWhile_append_cons (a := '@') rest
    (fun c (hc : c ∈ password) => inPassword_iff.mpr (inner.chars c (by simp [hc]))) (by decide)
  rw [text, login]
  simp only [upToColon, List.drop_left, upToSign]
  rw [if_neg (by simp [filled, filled'])]
  simp [opening, schemeEnd, loginEnd]
  omega

/-- **Nothing else is found.** -/
theorem login_eq_none (apart : ¬Text.StartsPart loginPart t) : login t = none := by
  unfold login
  split
  next rest =>
    have inName : ∀ c ∈ rest.takeWhile fun c =>
        !(c == '/' || c == ':' || c == '@' || Text.isBlank c), InUser c ∧ c ≠ ':' := by
      intro c hc
      have taken := List.mem_takeWhile_imp hc
      exact inName_iff.mp taken
    have front := List.prefix_iff_eq_append.mp (List.takeWhile_prefix (l := rest) fun c =>
      !(c == '/' || c == ':' || c == '@' || Text.isBlank c))
    dsimp only
    generalize rest.takeWhile _ = name at *
    split
    next rest' colon =>
      have inPassword : ∀ c ∈ rest'.takeWhile fun c =>
          !(c == '/' || c == '@' || Text.isBlank c), InUser c := by
        intro c hc
        have taken := List.mem_takeWhile_imp hc
        exact inPassword_iff.mp taken
      have behind := List.prefix_iff_eq_append.mp (List.takeWhile_prefix (l := rest') fun c =>
        !(c == '/' || c == '@' || Text.isBlank c))
      generalize rest'.takeWhile _ = password at *
      refine if_pos ?_
      by_contra found
      simp only [Bool.or_eq_true, beq_iff_eq, bne_iff_ne, not_or, not_not] at found
      obtain ⟨⟨filled, filled'⟩, sign⟩ := found
      obtain ⟨more, ending⟩ := List.head?_eq_some_iff.mp sign
      rw [ending] at behind
      rw [colon, ← behind] at front
      have inner : IsUser (name ++ ':' :: password) := by
        refine ⟨by simp, List.forall_mem_append.mpr ⟨fun c hc => (inName c hc).1, ?_⟩⟩
        exact List.forall_mem_cons.mpr ⟨by decide, inPassword⟩
      have pair : IsPair (name ++ ':' :: password) :=
        ⟨name, password, filled, fun hc => (inName _ hc).2 rfl, filled', rfl⟩
      exact apart ⟨_, _, more, ⟨_, inner, pair, rfl, rfl⟩, by simp [opening, ← front]⟩
    · rfl
  · rfl

/-- The finder of logins finds the openings with pairs. -/
theorem finds_login : Text.Finds login loginPart where
  ne_nil := by
    rintro _ _ _ ⟨user, -, -, rfl, rfl⟩
    exact List.cons_ne_nil _ _
  found := by
    rintro _ _ rest ⟨user, inner, pair, rfl, rfl⟩
    exact login_opening inner pair
  missed := login_eq_none

/-- What does not hold a colon in front of a slash is kept, up to an at sign. -/
theorem prefix_iff_of_replaced {z : List Char} (plain : ¬[':', '/'] <:+: z)
    (replaced : Text.Replaced loginPart t t') : z ++ ['@'] <+: t' ↔ z ++ ['@'] <+: t := by
  have apart {z : List Char} (plain : ¬[':', '/'] <:+: z) (more : List Char) :
      ¬z ++ ['@'] <+: ':' :: '/' :: more := by
    intro start
    match z with
    | [] => exact absurd (List.cons_prefix_cons.mp start).1 (by decide)
    | [c] => exact absurd (List.cons_prefix_cons.mp (List.cons_prefix_cons.mp start).2).1 (by decide)
    | c :: d :: z =>
      obtain ⟨first, start⟩ := List.cons_prefix_cons.mp start
      obtain ⟨second, -⟩ := List.cons_prefix_cons.mp start
      rw [first, second] at plain
      exact plain (List.prefix_append [':', '/'] z).isInfix
  induction replaced generalizing z with
  | nil => rfl
  | part found after ih =>
    obtain ⟨user, -, -, rfl, rfl⟩ := found
    exact iff_of_false (apart plain _) (apart plain _)
  | other _ after ih =>
    cases z with
    | nil => simp [List.cons_prefix_cons]
    | cons c z =>
      rw [List.cons_append, List.cons_prefix_cons, List.cons_prefix_cons]
      exact and_congr_right fun _ => ih fun h => plain (List.infix_cons h)

/-- **An address keeps its user exactly if that is not a pair.** -/
theorem opening_infix_iff_of_replaced (inner : IsUser user) (other : user ≠ mark)
    (replaced : Text.Replaced loginPart t t') :
    opening user <:+: t' ↔ opening user <:+: t ∧ ¬IsPair user := by
  have isUser_mark : IsUser mark := by decide
  induction replaced with
  | nil => simp [opening]
  | part found after ih =>
    obtain ⟨user', inner', pair, rfl, rfl⟩ := found
    rw [opening_infix_opening inner isUser_mark, opening_infix_opening inner inner',
      or_iff_right other, or_and_right]
    refine ih.trans (or_iff_right ?_).symm
    rintro ⟨rfl, single⟩
    exact single pair
  | @other c t t' apart after ih =>
    have plain : ¬[':', '/'] <:+: '/' :: '/' :: user := fun within => by
      rw [List.infix_cons_iff, List.infix_cons_iff] at within
      rcases within with start | start | within
      · exact absurd (List.cons_prefix_cons.mp start).1 (by decide)
      · exact absurd (List.cons_prefix_cons.mp start).1 (by decide)
      · exact inner.noSlash (within.subset (by simp))
    have start : opening user <+: c :: t' ↔ opening user <+: c :: t := by
      rw [opening, List.cons_prefix_cons, List.cons_prefix_cons]
      exact and_congr_right fun _ => prefix_iff_of_replaced plain after
    have single (start : opening user <+: c :: t) : ¬IsPair user := by
      rintro pair
      obtain ⟨rest, same⟩ := start
      exact apart ⟨_, _, rest, ⟨user, inner, pair, rfl, rfl⟩, same.symm⟩
    rw [List.infix_cons_iff, List.infix_cons_iff, or_and_right]
    exact or_congr (start.trans (iff_self_and.mpr single)) ih

end Pairs

/-! ### Addresses among secrets -/

/-- A text is **covered** at its end if it ends with a secret. -/
def Covered (t : List Char) : Prop := ∃ s, IsSecret s ∧ s <:+ t

/-- An address with a user **stands open** in a text if its opening is not covered there. -/
def StandsOpen (user t : List Char) : Prop :=
  ∃ front, front ++ opening user <+: t ∧ ¬Covered (front ++ opening user)

section Covering

variable {user word value rest s t t' x y : List Char} {c : Char}

/-- What ends with a covered text is covered. -/
theorem Covered.append_left (covered : Covered y) : Covered (x ++ y) := by
  obtain ⟨s, secret, suffix⟩ := covered
  exact ⟨s, secret, suffix.trans (List.suffix_append x y)⟩

/-- Behind a blank, a text is covered only by what comes after that. -/
theorem covered_append_cons {b : Char} (blank : Text.isBlank b = true) :
    Covered (x ++ b :: y) ↔ Covered (b :: y) := by
  refine ⟨?_, Covered.append_left⟩
  rintro ⟨s, secret, suffix⟩
  exact ⟨s, secret, (secret.ink.suffix_append_cons blank).mp suffix⟩

/-- What no secret starts with is covered if it is covered without its first character. -/
theorem covered_cons (apart : ¬StartsSecret (c :: t)) (start : c :: x <+: c :: t) :
    Covered (c :: x) ↔ Covered x := by
  constructor
  · rintro ⟨s, secret, suffix⟩
    rcases List.suffix_cons_iff.mp suffix with rfl | suffix
    · exact absurd ⟨_, secret, start⟩ apart
    · exact ⟨s, secret, suffix⟩
  · exact Covered.append_left (x := [c])

/-- A secret covers what it starts with, up to an at sign. -/
theorem covered_of_prefix_secret (secret : IsSecret s) (start : y ++ ['@'] <+: s) :
    Covered (y ++ ['@']) := by
  obtain ⟨word, value, inner, inner', rfl⟩ := secret
  have upToEquals : word ++ ['='] <+: word ++ '=' :: value := by
    rw [List.prefix_append_right_inj]
    exact List.prefix_append ['='] value
  rcases List.prefix_or_prefix_of_prefix start upToEquals with within | beyond
  · -- there is no at sign in a word
    have sign : '@' ∈ word ++ ['='] := within.subset (by simp)
    rcases List.mem_append.mp sign with sign | sign
    · exact absurd (by simp) (inner.apart sign).2
    · exact absurd sign (by decide)
  · obtain ⟨v, same⟩ := beyond
    rw [← same, List.append_assoc, List.prefix_append_right_inj] at start
    have values : v <+: value := (List.cons_prefix_cons.mp start).2
    refine ⟨_, ⟨word, v, inner, ⟨?_, fun c hc => inner'.ink c (values.subset hc)⟩, ?_⟩,
      List.suffix_rfl⟩
    · rintro rfl
      have := congrArg List.getLast? same
      simp at this
    · rw [← same]
      simp

/-- What ends a run still does when secrets are replaced. -/
theorem endsRun_of_replaced (replaced : Text.Replaced secretPart t t') (ends : EndsRun t) :
    EndsRun t' := by
  cases replaced with
  | nil => exact ends
  | part found after =>
    obtain ⟨word, value, inner, -, -, rfl, rfl⟩ := found
    obtain ⟨c, more, rfl⟩ := List.exists_cons_of_ne_nil inner.ne_nil
    exact ends
  | other apart after => exact ends

/-- Neither at signs nor colons are in a secret whose value is replaced. -/
theorem not_mem_marked (inner : IsWord word) : ∀ c ∈ ['@', ':'], c ∉ word ++ '=' :: mark := by
  have signs : ∀ c ∈ ['@', ':'], c ∉ '=' :: mark ∧ c ∈ ['=', '@', ':', '/'] :=
    List.forall_mem_cons.mpr ⟨by decide, List.forall_mem_singleton.mpr (by decide)⟩
  intro c hc within
  obtain ⟨outside, sign⟩ := signs c hc
  rcases List.mem_append.mp within with within | within
  · exact (inner.apart within).2 sign
  · exact outside within

/-- An at sign alone is not covered. -/
theorem not_covered_sign : ¬Covered ['@'] := by
  rintro ⟨_, ⟨word, value, -, -, rfl⟩, suffix⟩
  have equals : '=' ∈ ['@'] := suffix.subset (by simp)
  exact absurd equals (by decide)

/-- **What an at sign ends is kept exactly if no secret covers it.** -/
theorem prefix_iff_of_replaced_secrets (ink : IsInk (y ++ ['@']))
    (replaced : Text.Replaced secretPart t t') :
    y ++ ['@'] <+: t' ↔ y ++ ['@'] <+: t ∧ ¬Covered (y ++ ['@']) := by
  induction replaced generalizing y with
  | nil => simp
  | part found after ih =>
    obtain ⟨word, value, inner, inner', ends, rfl, rfl⟩ := found
    refine iff_of_false (fun start => ?_) fun ⟨start, bare⟩ => ?_
    · have within := ink.prefix_of_append (endsRun_of_replaced after ends) start
      exact not_mem_marked inner '@' (by decide) (within.subset (by simp))
    · have within := ink.prefix_of_append ends start
      exact bare (covered_of_prefix_secret ⟨word, value, inner, inner', rfl⟩ within)
  | @other c t t' apart after ih =>
    rw [startsPart_secretPart] at apart
    cases y with
    | nil => simp [List.cons_prefix_cons, not_covered_sign]
    | cons d y =>
      obtain ⟨-, ink⟩ := List.forall_mem_cons.mp ink
      rw [List.cons_append, List.cons_prefix_cons, List.cons_prefix_cons, and_assoc]
      refine and_congr_right ?_
      rintro rfl
      refine (ih ink).trans (and_congr_right fun start => not_congr ?_)
      exact (covered_cons apart (List.cons_prefix_cons.mpr ⟨rfl, start⟩)).symm

/-- No address that stands open starts in a secret. -/
theorem standsOpen_append (inner : IsUser user) (secret : IsSecret s) (ends : EndsRun rest) :
    StandsOpen user (s ++ rest) ↔ StandsOpen user rest := by
  constructor
  · rintro ⟨front, start, bare⟩
    rcases List.prefix_or_prefix_of_prefix start (List.prefix_append s rest) with within | beyond
    · rw [opening_eq, ← List.append_assoc] at within bare
      exact absurd (covered_of_prefix_secret secret within) bare
    · obtain ⟨more, same⟩ := beyond
      rw [← same, List.prefix_append_right_inj] at start
      rw [← same] at bare
      cases more with
      | nil => exact absurd ⟨s, secret, by simp⟩ bare
      | cons b more =>
        obtain ⟨rest, rfl⟩ := start
        have blank : Text.isBlank b = true := ends b rfl
        have opens : opening user <:+ s ++ b :: more := same ▸ List.suffix_append _ _
        obtain ⟨front, same⟩ := (inner.ink_opening.suffix_append_cons blank).mp opens
        refine ⟨front, same ▸ List.prefix_append _ _, fun covered => bare ?_⟩
        rw [same] at covered
        exact covered.append_left
  · rintro ⟨front, start, bare⟩
    refine ⟨s ++ front, ?_, ?_⟩
    · rwa [List.append_assoc, List.prefix_append_right_inj]
    · rw [List.append_assoc]
      obtain ⟨b, more, same⟩ := List.exists_cons_of_ne_nil
        (show front ++ opening user ≠ [] by simp [opening])
      rw [same] at start bare ⊢
      obtain ⟨rest, rfl⟩ := start
      have blank : Text.isBlank b = true := ends b rfl
      rwa [covered_append_cons blank]

/-- An address stands open at the start of a text, or after its first character. -/
theorem standsOpen_cons (apart : ¬StartsSecret (c :: t)) : StandsOpen user (c :: t) ↔
    (opening user <+: c :: t ∧ ¬Covered (opening user)) ∨ StandsOpen user t := by
  constructor
  · rintro ⟨front, start, bare⟩
    cases front with
    | nil => exact Or.inl ⟨start, bare⟩
    | cons d front =>
      obtain ⟨rfl, start'⟩ := List.cons_prefix_cons.mp start
      exact Or.inr ⟨front, start', mt (covered_cons apart start).mpr bare⟩
  · rintro (⟨start, bare⟩ | ⟨front, start, bare⟩)
    · exact ⟨[], start, bare⟩
    · have start' : c :: (front ++ opening user) <+: c :: t := List.cons_prefix_cons.mpr ⟨rfl, start⟩
      exact ⟨c :: front, start', mt (covered_cons apart start').mp bare⟩

/-- **An address is kept exactly if it stands open**: if no secret covers its opening. -/
theorem opening_infix_iff_standsOpen (inner : IsUser user)
    (replaced : Text.Replaced secretPart t t') :
    opening user <:+: t' ↔ StandsOpen user t := by
  induction replaced with
  | nil => simp [StandsOpen, opening]
  | part found after ih =>
    obtain ⟨word, value, inner', inner'', ends, rfl, rfl⟩ := found
    rw [standsOpen_append inner ⟨word, value, inner', inner'', rfl⟩ ends]
    exact (opening_infix_append_of_noColon (not_mem_marked inner' ':' (by decide))).trans ih
  | other apart after ih =>
    rw [List.infix_cons_iff, standsOpen_cons (mt startsPart_secretPart.mpr apart)]
    have start := prefix_iff_of_replaced_secrets (y := ':' :: '/' :: '/' :: user)
      inner.ink_opening (.other apart after)
    exact or_congr start ih

end Covering

/-! ### Messages -/

/-- A text **gives away** a user, other than the mark, if an address with it opens there. -/
structure GivesAway (t user : List Char) : Prop where
  /-- It is a user. -/
  inner : IsUser user
  /-- It is not the mark. -/
  other : user ≠ mark
  /-- An address with it opens. -/
  address : opening user <:+: t

/-- What is replaced in a message, and then in what that comes to. -/
theorem exists_replaced (message : String) :
    ∃ t, Text.Replaced secretPart message.toList t ∧
      Text.Replaced loginPart t (redact message).toList := by
  refine ⟨_, (Text.replaced_iff finds_secret).mpr rfl, (Text.replaced_iff finds_login).mpr ?_⟩
  rw [redact, String.toList_ofList]

/-- An address in a redacted message stood open, and its user was not a pair. -/
theorem opening_infix_redact {user : List Char} (message : String) (inner : IsUser user)
    (other : user ≠ mark) :
    opening user <:+: (redact message).toList ↔ StandsOpen user message.toList ∧ ¬IsPair user := by
  obtain ⟨t, secrets, logins⟩ := exists_replaced message
  rw [opening_infix_iff_of_replaced inner other logins, opening_infix_iff_standsOpen inner secrets]

/-- A character may stand for a user if its code point does not end a login. -/
theorem endsLogin_ofChar_eq_false_iff {c : Char} :
    Log.endsLogin (.ofChar c) = false ↔ InUser c := by
  simp [Log.endsLogin, Log.isWhere, InUser, and_assoc]

/-- **Users are what a log leaves out as logins.** -/
theorem isLogin_ofChars_iff {user : List Char} :
    Log.IsLogin (Text.ofChars user) ↔ IsUser user := by
  constructor
  · rintro ⟨filled, chars⟩
    refine ⟨fun nothing => filled (by rw [nothing]; rfl), fun c hc => ?_⟩
    exact endsLogin_ofChar_eq_false_iff.mp (chars _ (List.mem_map_of_mem hc))
  · rintro ⟨filled, chars⟩
    refine ⟨by simpa [Text.ofChars] using filled, fun p hp => ?_⟩
    obtain ⟨c, hc, rfl⟩ := List.mem_map.mp hp
    exact endsLogin_ofChar_eq_false_iff.mpr (chars c hc)

/-- **A redacted message gives away a user exactly if an address with it stood open in the message
and the user is no pair**: if it is a name or a token alone, a password without a name, or a name
with an empty password. A log leaves out all of them. -/
theorem givesAway_redact_iff (message : String) (user : List Char) :
    (IsUser user ↔ Log.IsLogin (Text.ofChars user)) ∧
      (GivesAway (redact message).toList user ↔
        IsUser user ∧ user ≠ mark ∧ StandsOpen user message.toList ∧ ¬IsPair user) := by
  refine ⟨isLogin_ofChars_iff.symm, ?_, ?_⟩
  · rintro ⟨inner, other, address⟩
    exact ⟨inner, other, (opening_infix_redact message inner other).mp address⟩
  · rintro ⟨inner, other, opens⟩
    exact ⟨inner, other, (opening_infix_redact message inner other).mpr opens⟩

/-- **Not every user is redacted**: a token alone is not. -/
theorem not_forall_redacted :
    ¬∀ (message : String) (user : List Char), ¬GivesAway (redact message).toList user := by
  intro all
  have inner : IsUser "token".toList := by decide
  have other : "token".toList ≠ mark := by decide
  have single : ¬IsPair "token".toList := by
    rintro ⟨name, password, -, -, -, same⟩
    have colon : ':' ∈ "token".toList := by
      rw [same]
      simp
    exact absurd colon (by decide)
  have opens : StandsOpen "token".toList "https://token@host/x".toList := by
    refine ⟨"https".toList, by decide, ?_⟩
    rintro ⟨_, ⟨word, value, -, -, rfl⟩, suffix⟩
    have equals : '=' ∈ "https".toList ++ opening "token".toList := suffix.subset (by simp)
    exact absurd equals (by decide)
  exact all _ _ ⟨inner, other, (opening_infix_redact _ inner other).mpr ⟨opens, single⟩⟩

end DepGraph.Redaction
