import OutboxProvisioning.Proofs.Settings.Url
import OutboxProvisioning.Proofs.Settings.Validation

/-!
# Addresses in the log

In the log, what stands between the first colon and the last at sign behind the scheme of an address
is cut out. Whatever the password of a login is, it does not show. But the cut does not keep to the
authority: an at sign further behind moves its end, and a password in the query is not looked for.

* `Cut`: what is cut out of a text.
* `login_not_logged`: **two passwords of a login leave the same log.**
* `Url.Orderly`, `Url.Discreet`: addresses in which nothing but the password of the login is cut
  out, and those without a password in the query.
* `Url.redact_orderly`: in the former, **that password is masked and nothing else.**
* `redacted_as_read`: what is logged of an address, and when that is right.
-/

namespace OutboxProvisioning.Settings

variable {scheme r before cut after : List Char} {u : Url}

/-! ## What is cut out -/

/-- What stands between the first colon and the last at sign of a text. -/
structure Cut (cs before cut after : List Char) : Prop where
  parts : cs = before ++ ':' :: (cut ++ '@' :: after)
  first : ':' ∉ before
  last : '@' ∉ after

/-- A text after its scheme is redacted by its cut. -/
theorem redact_cut (hscheme : ':' ∉ scheme) (h : Cut r before cut after) :
    redact (scheme ++ ("://".toList ++ r)) =
      scheme ++ ("://".toList ++ (before ++ ':' :: (stars ++ '@' :: after))) := by
  have hrest : r = (before ++ ':' :: cut) ++ '@' :: after := by rw [h.parts]; simp
  have hscheme := Text.splitFirst_append hscheme ['/', '/'] r
  have hlast := Text.splitLast_append h.last (before ++ ':' :: cut)
  have hfirst := Text.splitFirst_append h.first [] cut
  rw [← hrest] at hlast
  change redact (scheme ++ ([':', '/', '/'] ++ r)) = _
  simp only [redact, hscheme, hlast]
  simp only [List.cons_append, List.nil_append] at hfirst
  simp [hfirst, stars]

/-- Without a cut it is kept. -/
theorem redact_uncut (hscheme : ':' ∉ scheme) (h : ∀ before cut after, ¬ Cut r before cut after) :
    redact (scheme ++ ("://".toList ++ r)) = scheme ++ ("://".toList ++ r) := by
  have hscheme := Text.splitFirst_append hscheme ['/', '/'] r
  change redact (scheme ++ ([':', '/', '/'] ++ r)) = _
  simp only [redact, hscheme]
  cases hlast : Text.splitLast '@' r with
  | none => rfl
  | some parts =>
    obtain ⟨credentials, after⟩ := parts
    obtain ⟨hrest, hafter⟩ := Text.splitLast_eq_some hlast
    have hcolon : ':' ∉ credentials := by
      intro hmem
      obtain ⟨before, cut, rfl, hbefore⟩ := List.eq_append_cons_of_mem hmem
      exact h before cut after ⟨by rw [hrest]; simp, hbefore, hafter⟩
    simp only [Text.splitFirst_eq_none_iff.mpr hcolon]
    rfl

/-- After a user and a colon, what is cut out ends with the password or behind it, and what follows
does not depend on the password. -/
theorem exists_cut {user : List Char} (huser : ':' ∉ user) (r : List Char) :
    ∃ after, ∀ password, ∃ cut, Cut (user ++ ':' :: (password ++ '@' :: r)) user cut after := by
  cases hlast : Text.splitLast '@' r with
  | none =>
    exact ⟨r, fun password => ⟨password, rfl, huser, Text.splitLast_eq_none_iff.mp hlast⟩⟩
  | some parts =>
    obtain ⟨between, after⟩ := parts
    obtain ⟨rfl, hafter⟩ := Text.splitLast_eq_some hlast
    exact ⟨after, fun password => ⟨password ++ '@' :: between, by simp, huser, hafter⟩⟩

/-- **The password of a login does not get into the log.** Whatever two passwords are, in addresses
that are the same but for them, the same is shown and logged of both. -/
theorem login_not_logged {scheme user r : String}
    (hscheme : scheme = "postgres" ∨ scheme = "postgresql") (huser : ':' ∉ user.toList)
    {d d' : Database} {p p' : String}
    (hd : d.url = scheme ++ "://" ++ user ++ ":" ++ p ++ "@" ++ r)
    (hd' : d'.url = scheme ++ "://" ++ user ++ ":" ++ p' ++ "@" ++ r) :
    d.redactedUrl = d'.redactedUrl ∧ Log.connecting d = Log.connecting d' ∧
      (scheme ++ "://" ++ user ++ ":***@").toList <+: d.redactedUrl.toList := by
  have hcolon : ':' ∉ scheme.toList := by rcases hscheme with rfl | rfl <;> decide
  obtain ⟨after, hcut⟩ := exists_cut huser r.toList
  have hshown : ∀ (d : Database) (p : String),
      d.url = scheme ++ "://" ++ user ++ ":" ++ p ++ "@" ++ r →
      d.redactedUrl = String.ofList (scheme.toList ++
        ("://".toList ++ (user.toList ++ ':' :: (stars ++ '@' :: after)))) := by
    intro d p hd
    obtain ⟨cut, hcut⟩ := hcut p.toList
    rw [Database.redactedUrl, hd, ← redact_cut hcolon hcut]
    simp
  have hsame : d.redactedUrl = d'.redactedUrl := (hshown d p hd).trans (hshown d' p' hd').symm
  refine ⟨hsame, by rw [Log.connecting, Log.connecting, hsame], ?_⟩
  rw [hshown d p hd, String.toList_ofList]
  exact ⟨after, by simp [stars]⟩

/-- A password with each separator in it, and none, in an address that goes on with an at sign. -/
theorem login_not_logged_odd :
    let standard := Database.standard
    let d := { standard with url := "postgresql://billing:a@b:c/d://e?f@db.internal/billing?x=y@z" }
    let d' := { standard with url := "postgresql://billing:@db.internal/billing?x=y@z" }
    ':' ∉ "billing".toList ∧ d.redactedUrl = "postgresql://billing:***@z" ∧
      d'.redactedUrl = d.redactedUrl ∧ Log.connecting d' = Log.connecting d := by
  intro standard d d'
  have huser : ':' ∉ "billing".toList := by decide
  have hnone : d'.url = "postgresql" ++ "://" ++ "billing" ++ ":" ++ "" ++ "@" ++
      "db.internal/billing?x=y@z" := by decide
  have hodd : d.url = "postgresql" ++ "://" ++ "billing" ++ ":" ++ "a@b:c/d://e?f" ++ "@" ++
      "db.internal/billing?x=y@z" := by decide
  obtain ⟨hsame, hlog, -⟩ := login_not_logged (.inr rfl) huser hnone hodd
  exact ⟨huser, by decide +kernel, hsame, hlog⟩

/-! ## What is cut out of an address -/

namespace Url

/-- What follows the scheme of an address. -/
def rest (u : Url) : List Char := u.authority false ++ u.tail false

/-- The password of the login. -/
def password (u : Url) : Option (List Char) := u.login.bind Pair.value

/-- No at sign behind the authority comes after a colon. -/
def Orderly (u : Url) : Prop :=
  '@' ∈ u.tail false → ∀ before cut after, ¬ Cut u.rest before cut after

/-- There is no password in the query, or it reads like the mask. -/
def Discreet (u : Url) : Prop :=
  ∀ ps ∈ u.query, ∀ p ∈ ps, p.isPassword = true → ∀ v ∈ p.value, v = stars

theorem scheme_no_colon (u : Url) : ':' ∉ u.scheme :=
  fun h => u.scheme_free ':' h List.mem_cons_self

theorem key_no_colon (l : Login) : ':' ∉ l.key := fun h => l.key_free ':' h List.mem_cons_self

/-- Masking the query changes nothing just when there is nothing to mask. -/
theorem shown_query_iff (login : Bool) : u.shown login true = u.shown login false ↔ u.Discreet := by
  have hwords (ps : List Parameter) : words true ps = words false ps ↔
      ∀ p ∈ ps, p.isPassword = true → ∀ v ∈ p.value, v = stars := by
    rw [words, words, List.map_inj_left]
    refine forall₂_congr fun p _ => ?_
    cases p.isPassword with
    | false => simp
    | true => simpa using Pair.shown_true_iff
  constructor
  · intro h
    obtain ⟨-, hquery, -⟩ := tail_inj (shown_inj h).2.2
    have hparts := u.parts_queryText true
    rw [hquery, u.parts_queryText false] at hparts
    intro ps hps
    rw [hps] at hparts
    exact (hwords ps).mp (Option.some.inj hparts).symm
  · intro h
    have hquery : u.queryText true = u.queryText false := by
      refine Option.map_congr ?_
      intro ps hps
      rw [(hwords ps).mpr (h ps hps)]
    rw [shown, shown, tail, tail, hquery]

/-- Masking the login changes nothing when it has no password. -/
theorem authority_of_no_password (h : u.password = none) :
    u.authority true = u.authority false := by
  unfold authority
  cases hl : u.login with
  | none => rfl
  | some l =>
    have hvalue : l.value = none := by simpa [password, hl] using h
    simp [Pair.shown, hvalue]

/-- A login with a password is a user, a colon and the password. -/
theorem authority_of_password {p : List Char} (h : u.password = some p) :
    ∃ user, ':' ∉ user ∧ u.authority false = user ++ ':' :: (p ++ '@' :: u.host) ∧
      u.authority true = user ++ ':' :: (stars ++ '@' :: u.host) := by
  obtain ⟨l, hl, hvalue⟩ := Option.bind_eq_some_iff.mp h
  refine ⟨l.key, key_no_colon l, ?_, ?_⟩ <;>
    simp [authority, hl, Pair.shown, hvalue, Text.lead]

/-- **An address is redacted by masking the password of its login**, if no at sign behind its
authority comes after a colon. -/
theorem redact_orderly (h : u.Orderly) : redact u.text = u.shown true false := by
  cases hpassword : u.password with
  | none =>
    -- there is nothing to cut out: without a password, the last at sign comes before all colons
    have huncut : ∀ before cut after, ¬ Cut u.rest before cut after := by
      intro before cut after hcut
      have htail : '@' ∉ u.tail false := fun hat => h hat before cut after hcut
      have hafter : '@' ∉ u.host ++ u.tail false := by
        simpa using ⟨u.host_no_at, htail⟩
      cases hl : u.login with
      | none =>
        have hmem : '@' ∈ u.rest := by rw [hcut.parts]; simp
        simp only [rest, authority, hl] at hmem
        exact hafter hmem
      | some l =>
        have hvalue : l.value = none := by simpa [password, hl] using hpassword
        have hrest : u.rest = l.key ++ '@' :: (u.host ++ u.tail false) := by
          simp [rest, authority, hl, Pair.shown, hvalue, Text.lead]
        have hcredentials := Text.splitLast_append hafter l.key
        have hcut' := Text.splitLast_append hcut.last (before ++ ':' :: cut)
        rw [← hrest, hcut.parts] at hcredentials
        rw [List.append_assoc, List.cons_append, hcredentials] at hcut'
        have hkey : l.key = before ++ ':' :: cut := congrArg Prod.fst (Option.some.inj hcut')
        exact key_no_colon l (by rw [hkey]; simp)
    have hredact := redact_uncut u.scheme_no_colon huncut
    rw [shown, authority_of_no_password hpassword]
    exact hredact
  | some p =>
    obtain ⟨user, huser, hauthority, hmasked⟩ := authority_of_password hpassword
    have hrest : u.rest = user ++ ':' :: (p ++ '@' :: (u.host ++ u.tail false)) := by
      simp [rest, hauthority]
    obtain ⟨after, hcut⟩ := exists_cut huser (u.host ++ u.tail false)
    obtain ⟨cut, hcut⟩ := hcut p
    rw [← hrest] at hcut
    have htail : '@' ∉ u.tail false := fun hat => h hat user cut after hcut
    have hpasswordCut : Cut u.rest user p (u.host ++ u.tail false) :=
      ⟨hrest, huser, by simpa using ⟨u.host_no_at, htail⟩⟩
    have hredact := redact_cut u.scheme_no_colon hpasswordCut
    rw [shown, hmasked]
    refine Eq.trans hredact ?_
    simp

/-- With an at sign behind the authority that comes after a colon, the cut is right just when there
is no password in the login and what is cut out reads like the mask. -/
theorem shown_cut_iff (hcut : Cut u.rest before cut after) (hat : '@' ∈ u.tail false) :
    u.scheme ++ ("://".toList ++ (before ++ ':' :: (stars ++ '@' :: after))) = u.shown true false ↔
      u.password = none ∧ cut = stars := by
  rw [shown, List.append_cancel_left_eq, List.append_cancel_left_eq]
  cases hpassword : u.password with
  | none =>
    rw [authority_of_no_password hpassword]
    change before ++ ':' :: (stars ++ '@' :: after) = u.rest ↔ _
    rw [hcut.parts, List.append_cancel_left_eq, List.cons_inj_right, List.append_cancel_right_eq]
    simp [eq_comm]
  | some p =>
    obtain ⟨user, huser, hauthority, hmasked⟩ := authority_of_password hpassword
    simp only [reduceCtorEq, false_and, iff_false]
    intro heq
    -- the cut begins behind the user, and ends behind the host
    have hcolon {cs : List Char} (h : ':' ∉ cs) : ∀ c ∈ cs, c ∉ [':'] :=
      fun c hc hmem => h (List.mem_singleton.mp hmem ▸ hc)
    have hhead (r : List Char) : ∀ c ∈ (':' :: r).head?, c ∈ [':'] := by simp
    rw [hmasked, List.append_assoc, List.cons_append, List.append_assoc, List.cons_append] at heq
    obtain ⟨-, heq⟩ := Text.append_inj_of_free [':'] (hcolon hcut.first) (hcolon huser)
      (hhead _) (hhead _) heq
    have hafter : after = u.host ++ u.tail false := by simpa using heq
    exact hcut.last (by rw [hafter]; simp [hat])

end Url

/-! ## What is logged of an address -/

/-- **What is logged of an address.** Each address that passes is read in one way. If no at sign
behind its authority comes after a colon, the password of the login is masked and nothing else,
which is all there is to mask just when no password is in the query. Else what is cut out ends at the
last at sign; with no password in the query, that is right just when there is no password at all and
what is cut out reads like the mask. -/
theorem redacted_as_read {d : Database} (h : d.validate = .ok ()) :
    ∃ u : Url, u.text = d.url.toList ∧ (∀ v : Url, v.text = d.url.toList → v = u) ∧
      (u.Orderly → d.redactedUrl.toList = u.shown true false ∧
        (d.redactedUrl.toList = u.shown true true ↔ u.Discreet)) ∧
      ∀ before cut after, '@' ∈ u.tail false → Cut u.rest before cut after →
        d.redactedUrl.toList =
          u.scheme ++ ("://".toList ++ (before ++ ':' :: (stars ++ '@' :: after))) ∧
        (u.Discreet →
          (d.redactedUrl.toList = u.shown true true ↔ u.password = none ∧ cut = stars)) := by
  obtain ⟨u, hu⟩ := Url.exists_text (Database.validate_iff.mp h).address
  have hredacted : d.redactedUrl.toList = redact u.text := by
    rw [Database.redactedUrl, String.toList_ofList, hu]
  refine ⟨u, hu, fun v hv => Url.text_injective (hv.trans hu.symm), ?_, ?_⟩
  · intro horderly
    rw [hredacted, Url.redact_orderly horderly]
    exact ⟨rfl, eq_comm.trans (Url.shown_query_iff true)⟩
  · intro before cut after hat hcut
    have hshown : redact u.text = _ := redact_cut u.scheme_no_colon hcut
    rw [hredacted, hshown]
    refine ⟨rfl, fun hdiscreet => ?_⟩
    rw [(Url.shown_query_iff true).mpr hdiscreet]
    exact Url.shown_cut_iff hcut hat

/-- An address with an at sign in its password is read, and only the password goes. -/
theorem redacted_as_read_login :
    let d : Database := { Database.standard with
      url := "postgres://billing:p@ss@db:5432/billing?sslmode=require" }
    let u : Url := ⟨"postgres".toList,
      some ⟨"billing".toList, some "p@ss".toList, by simp, by simp⟩,
      "db:5432".toList, "/billing".toList,
      some [⟨"sslmode".toList, some "require".toList, by simp, by simp⟩], none,
      .inl rfl, by simp, by simp, by simp, by simp⟩
    d.validate = .ok () ∧ u.text = d.url.toList ∧ u.Orderly ∧ u.Discreet ∧
      d.redactedUrl.toList = u.shown true true ∧
      u.shown true true = "postgres://billing:***@db:5432/billing?sslmode=require".toList := by
  intro d u
  have hvalid : d.validate = .ok () := Database.validate_iff.mpr
    ⟨.inl (by decide), by decide, by decide⟩
  have hu : u.text = d.url.toList := by decide
  have horderly : u.Orderly := fun hat => absurd hat (by decide)
  have hdiscreet : u.Discreet := by
    intro ps hps p hp
    obtain rfl := Option.some.inj hps
    obtain rfl := List.mem_singleton.mp hp
    exact fun hpassword => absurd hpassword (by decide +kernel)
  obtain ⟨v, -, hunique, hshown, -⟩ := redacted_as_read hvalid
  obtain rfl := hunique u hu
  exact ⟨hvalid, hu, horderly, hdiscreet, (hshown horderly).2.mpr hdiscreet, by decide +kernel⟩

/-- A password in the query is logged; and of an address without a password, which has a port and an
at sign in a parameter, the port and more is lost. -/
theorem query_password_logged :
    let d : Database := { Database.standard with
      url := "postgres://billing@localhost/billing?password=s3cret" }
    let u : Url := ⟨"postgres".toList, some ⟨"billing".toList, none, by simp, by simp⟩,
      "localhost".toList, "/billing".toList,
      some [⟨"password".toList, some "s3cret".toList, by simp, by simp⟩], none,
      .inl rfl, by simp, by simp, by simp, by simp⟩
    let d' : Database := { Database.standard with
      url := "postgres://localhost:5432/billing?application_name=a@b" }
    let u' : Url := ⟨"postgres".toList, none, "localhost:5432".toList, "/billing".toList,
      some [⟨"application_name".toList, some "a@b".toList, by simp, by simp⟩], none,
      .inl rfl, by simp, by simp, by simp, by simp⟩
    (d.validate = .ok () ∧ u.text = d.url.toList ∧
      u.shown true true = "postgres://billing@localhost/billing?password=***".toList ∧
      d.redactedUrl = d.url) ∧
    (d'.validate = .ok () ∧ u'.text = d'.url.toList ∧ u'.shown true true = d'.url.toList ∧
      d'.redactedUrl = "postgres://localhost:***@b") := by
  intro d u d' u'
  have hvalid : d.validate = .ok () := Database.validate_iff.mpr
    ⟨.inl (by decide), by decide, by decide⟩
  have hvalid' : d'.validate = .ok () := Database.validate_iff.mpr
    ⟨.inl (by decide), by decide, by decide⟩
  exact ⟨⟨hvalid, by decide, by decide +kernel, by decide +kernel⟩,
    hvalid', by decide, by decide +kernel, by decide +kernel⟩

end OutboxProvisioning.Settings
