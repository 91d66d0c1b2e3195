import TableFeed.Config.Basic
import TableFeed.Proofs.Number.Layout
import TableFeed.Proofs.Text.Percent
import TableFeed.Proofs.Text.Url

/-!
# The password of the event store

The address of the event store is made of text that the operator sets. The password may be any text: it
is escaped, so it ends at the `@` that was written behind it, and everything else of the address is read
as if it stood there alone.

* **`eventStoreUrl_login`**, **`eventStoreUrl_bare`** — the address with and without a password.
* **`parse_redis`** — what stands behind the scheme is read as login, host, port and path.
* **`parse_login`**, **`parse_bare`** — host, port and path are those of the text behind the login.
* **`password_survives`** — the address gives the password back, tells it from every other one, and
  leads to the same place with each of them.
-/

namespace TableFeed.Config

open Url

/-! ## The address as a text -/

/-- What stands behind the login: the setting for host and port, and the number of the database. -/
def storePlace (c : Config) : List Char :=
  c.esUrl.toList ++ '/' :: Nat.toDigits 10 c.esDb

/-- The escaped password in characters. -/
def storeLogin (c : Config) : List Char :=
  (Percent.encode c.esPass).toList

variable {c : Config}

theorem eventStoreUrl_login (hpass : c.esPass ≠ "") (hurl : ¬ "://".toList <:+: c.esUrl.toList) :
    c.eventStoreUrl =
      "redis://:" ++ Percent.encode c.esPass ++ "@" ++ c.esUrl ++ "/" ++ toString c.esDb := by
  have hempty : ¬ c.esPass.isEmpty = true := fun h => hpass (String.isEmpty_iff.mp h)
  rw [eventStoreUrl, if_neg (mt Split.contains_eq_true.mp hurl), if_neg hempty]
  simp only [← String.append_assoc]
  rfl

theorem eventStoreUrl_bare (hpass : c.esPass = "") (hurl : ¬ "://".toList <:+: c.esUrl.toList) :
    c.eventStoreUrl = "redis://" ++ c.esUrl ++ "/" ++ toString c.esDb := by
  have hempty : c.esPass.isEmpty = true := String.isEmpty_iff.mpr hpass
  rw [eventStoreUrl, if_neg (mt Split.contains_eq_true.mp hurl), if_pos hempty]
  simp only [String.append_empty]

theorem toList_login (hpass : c.esPass ≠ "") (hurl : ¬ "://".toList <:+: c.esUrl.toList) :
    c.eventStoreUrl.toList = "redis://".toList ++ ':' :: (storeLogin c ++ '@' :: storePlace c) := by
  rw [eventStoreUrl_login hpass hurl]
  simp [storeLogin, storePlace]

theorem toList_bare (hpass : c.esPass = "") (hurl : ¬ "://".toList <:+: c.esUrl.toList) :
    c.eventStoreUrl.toList = "redis://".toList ++ storePlace c := by
  rw [eventStoreUrl_bare hpass hurl]
  simp [storePlace]

/-! ## The address as it is read -/

/-- What is read of the place: a break of the line does not count anywhere in a URL. -/
def placeRead (c : Config) : List Char :=
  (storePlace c).filter (!isLineBreak ·)

/-- The place ends with a digit, which is not trimmed. -/
theorem ends_storePlace (front : List Char) :
    ∀ d ∈ (front ++ storePlace c).getLast?, isControlOrSpace d = false := by
  intro d hd
  have hdigits : Nat.toDigits 10 c.esDb ≠ [] := by
    obtain ⟨digit, digits, heq, -⟩ := Shortest.toDigits_lead c.esDb
    rw [heq]
    exact List.cons_ne_nil _ _
  rw [storePlace, ← List.append_assoc, List.append_cons,
    List.getLast?_append_of_ne_nil _ hdigits] at hd
  have hdigit := Shortest.isDigit_toDigits d (List.mem_of_getLast? hd)
  have hcode : 48 ≤ d.toNat := (Char.isDigit_iff_toNat.mp hdigit).1
  exact decide_eq_false (by omega)

/-- What stands behind the scheme is read as login, host, port and path. -/
theorem parse_redis {s : String} {cs : List Char} (hs : s.toList = "redis://".toList ++ cs)
    (hlast : ∀ d ∈ ("redis://".toList ++ cs).getLast?, isControlOrSpace d = false) :
    Url.parse s = ofAuthority "redis" (cs.filter (!isLineBreak ·)) := by
  have htrim : Blank.trimBy isControlOrSpace s.toList = "redis://".toList ++ cs := by
    rw [hs]
    refine Blank.trimBy_eq ?_ hlast
    rintro d ⟨⟩
    decide
  have hfilter : ("redis://".toList ++ cs).filter (!isLineBreak ·) =
      "redis".toList ++ ':' :: ('/' :: '/' :: cs.filter (!isLineBreak ·)) := by
    rw [List.filter_append]
    rfl
  have hscheme : splitScheme ("redis".toList ++ ':' :: ('/' :: '/' :: cs.filter (!isLineBreak ·))) =
      some ("redis", '/' :: '/' :: cs.filter (!isLineBreak ·)) := by
    have hfree := Split.free_of_any (by decide : "redis".toList.any (· = ':') = false)
    rw [splitScheme, Split.first_append _ hfree (decide_eq_true rfl)]
    rfl
  rw [Url.parse, htrim, hfilter, hscheme]
  rfl

/-- A mark of a URL does not stand in an escaped password. -/
theorem storeLogin_free (p : Char → Bool) (marks : List Char)
    (hmarks : (marks.all fun m => decide (m ≠ '%' ∧ ¬ Percent.IsPlain m)) = true)
    (hp : ∀ d, p d = true → d ∈ marks) :
    ∀ d ∈ storeLogin c, p d = false := by
  intro d hd
  refine Bool.eq_false_iff.mpr fun hpd => ?_
  have hmark := of_decide_eq_true (List.all_eq_true.mp hmarks d (hp d hpd))
  exact (Percent.escaped_encode c.esPass).ne_mark hmark d hd rfl

/-- Nothing of the place is read as a login if there is no `@` in the setting. -/
theorem not_mem_placeRead (h : '@' ∉ c.esUrl.toList) : '@' ∉ placeRead c := by
  intro hmem
  rcases List.mem_append.mp (List.mem_filter.mp hmem).1 with hurl | hplace
  · exact h hurl
  · rcases List.mem_cons.mp hplace with heq | hdigit
    · exact absurd heq (by decide)
    · exact absurd (Shortest.isDigit_toDigits _ hdigit) (by decide)

/-- Without a password the address leads to the place as it is set. -/
theorem parse_bare (hpass : c.esPass = "") (hurl : ¬ "://".toList <:+: c.esUrl.toList) {u : Url}
    (h : behindLogin "redis" (placeRead c) = .ok u) :
    ∃ user password, Url.parse c.eventStoreUrl = .ok { u with user, password } := by
  rw [parse_redis (toList_bare hpass hurl) (ends_storePlace _)]
  exact ofLogin_of_ofHost "redis" h _

section

variable (hpass : c.esPass ≠ "") (hurl : ¬ "://".toList <:+: c.esUrl.toList)
include hpass hurl

/-- With a password the address leads to the place behind the login. -/
theorem parse_login : Url.parse c.eventStoreUrl = (behindLogin "redis" (placeRead c)).map fun u =>
      { u with password := storeLogin c ++ loginRest "redis" (placeRead c) } := by
  -- nothing is dropped from an escaped password, and nothing in it ends the login
  have hbreaks : ∀ d ∈ storeLogin c, isLineBreak d = false := by
    refine storeLogin_free isLineBreak ['\t', '\n', '\r'] (by decide) fun d hd => ?_
    simpa [isLineBreak, or_assoc] using hd
  have hends : ∀ d ∈ storeLogin c, endsAuthority true d = false := by
    refine storeLogin_free (endsAuthority true) ['/', '?', '#', '\\'] (by decide) fun d hd => ?_
    simpa [endsAuthority, or_assoc] using hd
  have hfilter : (':' :: (storeLogin c ++ '@' :: storePlace c)).filter (!isLineBreak ·) =
      ':' :: (storeLogin c ++ '@' :: placeRead c) := by
    have hkept : (storeLogin c).filter (!isLineBreak ·) = storeLogin c :=
      List.filter_eq_self.mpr fun d hd => by rw [hbreaks d hd]; rfl
    have hcons : (':' :: (storeLogin c ++ '@' :: storePlace c)).filter (!isLineBreak ·) =
        ':' :: ((storeLogin c).filter (!isLineBreak ·) ++ '@' :: placeRead c) := by
      rw [List.filter_cons_of_pos (by decide), List.filter_append, List.filter_cons_of_pos (by decide)]
      rfl
    rw [hcons, hkept]
  have hlast := ends_storePlace (c := c) ("redis://".toList ++ ':' :: (storeLogin c ++ ['@']))
  have hassoc : ("redis://".toList ++ ':' :: (storeLogin c ++ ['@'])) ++ storePlace c =
      "redis://".toList ++ ':' :: (storeLogin c ++ '@' :: storePlace c) := by simp
  rw [hassoc] at hlast
  rw [parse_redis (toList_login hpass hurl) hlast, hfilter]
  exact ofAuthority_login (Percent.encode_ne_nil hpass) hends

/-- The addresses of two passwords differ. -/
theorem eventStoreUrl_inj {password : String}
    (h : { c with esPass := password }.eventStoreUrl = c.eventStoreUrl) : password = c.esPass := by
  have htext := congrArg String.toList h
  rw [toList_login hpass hurl] at htext
  by_cases hne : password = ""
  · -- without a password the address is shorter
    rw [toList_bare (c := { c with esPass := password }) hne hurl] at htext
    have hlength := congrArg List.length htext
    simp [storePlace] at hlength
    omega
  · -- both end in the same place, so the logins in front of it are the same
    rw [toList_login (c := { c with esPass := password }) hne hurl] at htext
    have hlogin : storeLogin { c with esPass := password } = storeLogin c :=
      List.append_cancel_right (List.cons.inj (List.append_cancel_left htext)).2
    exact Percent.encode_injective (String.toList_inj.mp hlogin)

/-- The first `@` of the address is the one behind the password. -/
theorem first_mark :
    Split.first (· = '@') c.eventStoreUrl.toList =
      ("redis://:".toList ++ storeLogin c, some (storePlace c)) := by
  have hlogin : ∀ d ∈ storeLogin c, decide (d = '@') = false :=
    storeLogin_free _ ['@'] (by decide) fun d hd => List.mem_singleton.mpr (of_decide_eq_true hd)
  have hscheme := Split.free_of_any (by decide : "redis://:".toList.any (· = '@') = false)
  have hassoc : "redis://".toList ++ ':' :: (storeLogin c ++ '@' :: storePlace c) =
      ("redis://:".toList ++ storeLogin c) ++ '@' :: storePlace c := by simp
  rw [toList_login hpass hurl, hassoc]
  exact Split.first_append _ (List.forall_mem_append.mpr ⟨hscheme, hlogin⟩) (decide_eq_true rfl)

/-- With another password the address has the same parts but for it, or is no URL for the same reason. -/
theorem parse_other {password : String} (hne : password ≠ "") :
    (Url.parse { c with esPass := password }.eventStoreUrl).map (fun u => { u with password := [] }) =
      (Url.parse c.eventStoreUrl).map (fun u => { u with password := [] }) := by
  -- the place does not depend on the password
  have hplace : placeRead { c with esPass := password } = placeRead c := rfl
  rw [parse_login hpass hurl, parse_login (c := { c with esPass := password }) hne hurl, hplace]
  cases behindLogin "redis" (placeRead c) with
  | error e => simp only [Except.map]
  | ok u => simp only [Except.map]

end

/-- A password is escaped in the address, so it is read back, it ends at the first `@`, and no two give
the same address. Where the address leads does not depend on it: with any other password the URL has the
same parts, and without one it leads to the same host, port and path. -/
theorem password_survives (c : Config) (hpass : c.esPass ≠ "")
    (hurl : ¬ "://".toList <:+: c.esUrl.toList) :
    c.eventStoreUrl =
        "redis://:" ++ Percent.encode c.esPass ++ "@" ++ c.esUrl ++ "/" ++ toString c.esDb ∧
      Percent.Escaped (Percent.encode c.esPass).toList ∧
      Percent.decodeBytes (Utf8.bytes (Percent.encode c.esPass)) = Utf8.bytes c.esPass ∧
      Split.first (· = '@') c.eventStoreUrl.toList =
        (("redis://:" ++ Percent.encode c.esPass).toList,
          some (c.esUrl ++ "/" ++ toString c.esDb).toList) ∧
      (∀ password, { c with esPass := password }.eventStoreUrl = c.eventStoreUrl →
        password = c.esPass) ∧
      (∀ password, password ≠ "" →
        (Url.parse { c with esPass := password }.eventStoreUrl).map (fun u => { u with password := [] }) =
          (Url.parse c.eventStoreUrl).map (fun u => { u with password := [] })) ∧
      (∀ u, Url.parse c.eventStoreUrl = .ok u →
        (∃ user password,
          Url.parse { c with esPass := "" }.eventStoreUrl = .ok { u with user, password }) ∧
        ('@' ∉ c.esUrl.toList → u.password = (Percent.encode c.esPass).toList)) := by
  refine ⟨eventStoreUrl_login hpass hurl, Percent.escaped_encode _, Percent.decodeBytes_encode _, ?_,
    fun _ => eventStoreUrl_inj hpass hurl, ?_, ?_⟩
  · rw [first_mark hpass hurl]
    simp [storePlace, storeLogin]
  · exact fun _ hne => parse_other hpass hurl hne
  · intro u hu
    rw [parse_login hpass hurl] at hu
    cases hbehind : behindLogin "redis" (placeRead c) with
    | error e =>
      rw [hbehind] at hu
      cases hu
    | ok v =>
      rw [hbehind] at hu
      obtain rfl := Except.ok.inj hu
      obtain ⟨user, password, hbare⟩ := parse_bare (c := { c with esPass := "" }) rfl hurl hbehind
      refine ⟨⟨user, password, hbare⟩, fun hplain => ?_⟩
      show storeLogin c ++ loginRest "redis" (placeRead c) = _
      rw [loginRest_eq_nil (not_mem_placeRead hplain), List.append_nil]
      rfl

/-- A password with a space and with the mark that ends a login. -/
theorem password_survives_marked :
    (ofSettings [(.esUrl, "es.local:6380"), (.esPass, "p@ss word"), (.esDb, "3")]).eventStoreUrl =
        "redis://:p%40ss%20word@es.local:6380/3" ∧
      Percent.decodeBytes (Utf8.bytes "p%40ss%20word") = Utf8.bytes "p@ss word" ∧
      (Url.parse "redis://:secret@es.local:6380/3").map (fun u => { u with password := [] }) =
        (Url.parse "redis://:p%40ss%20word@es.local:6380/3").map (fun u => { u with password := [] }) ∧
      ((Url.parse "redis://:secret@es.local:6380/3").map fun u => (u.host, u.port, u.path)).toOption =
        some (.name "es.local".toList, some 6380, "/3".toList) := by
  have hurl : (ofSettings [(.esUrl, "es.local:6380"), (.esPass, "p@ss word"), (.esDb, "3")]).eventStoreUrl =
      "redis://:p%40ss%20word@es.local:6380/3" := by decide
  have hpass : Percent.encode "p@ss word" = "p%40ss%20word" := by decide
  obtain ⟨-, -, hread, -, -, hsame, -⟩ := password_survives
    (ofSettings [(.esUrl, "es.local:6380"), (.esPass, "p@ss word"), (.esDb, "3")]) (by decide) (by decide)
  have hsecret := hsame "secret" (by decide)
  rw [hurl] at hsecret
  exact ⟨hurl, hpass ▸ hread, hsecret, by decide +kernel⟩

end TableFeed.Config
