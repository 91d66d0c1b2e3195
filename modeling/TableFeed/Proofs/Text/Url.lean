import Mathlib.Data.List.Infix
import TableFeed.Proofs.Text.Cutting
import TableFeed.Text.Url

/-!
# A login does not move what stands behind it

A URL names its host behind the last `@` of the part in front of the path. A login that does not end that part
itself can only be read as a login, so host, port, path and query are those of the text behind it.

* **`first_append`**, **`last_append`** — a text that is cut at the first or last of some characters.
* **`ofLogin_password`**, **`ofLogin_of_ofHost`** — the parts behind a login, with it and without it.
* **`ofAuthority_login`** — the crux: the parts of a URL with a password are those that the text behind
  the login has by itself.
-/

namespace TableFeed

namespace Split

variable {p : Char → Bool} {cs front rest : List Char} {c : Char}

theorem free_of_any (h : cs.any p = false) : ∀ d ∈ cs, p d = false :=
  fun d hd => Bool.eq_false_iff.mpr (List.any_eq_false.mp h d hd)

/-- A text is cut at the first character of a class. -/
theorem first_append (rest : List Char) (hcs : ∀ d ∈ cs, p d = false) (hc : p c = true) :
    first p (cs ++ c :: rest) = (cs, some rest) := by
  have hfree : ∀ d ∈ cs, (!p d) = true := fun d hd => by rw [hcs d hd]; rfl
  have hdrop : (cs ++ c :: rest).dropWhile (!p ·) = c :: rest := by
    rw [List.dropWhile_append_of_pos hfree, List.dropWhile_cons_of_neg (by simp [hc])]
  have htake : (cs ++ c :: rest).takeWhile (!p ·) = cs := by
    rw [List.takeWhile_append_of_pos hfree, List.takeWhile_cons_of_neg (by simp [hc]), List.append_nil]
  unfold first
  rw [hdrop, htake]

/-- What was cut off has the class in front of it, and a text of one piece has none of it. -/
theorem first_cases (p : Char → Bool) (cs : List Char) :
    (first p cs = (cs, none) ∧ ∀ d ∈ cs, p d = false) ∨
    ∃ front c rest, cs = front ++ c :: rest ∧ (∀ d ∈ front, p d = false) ∧ p c = true ∧
      first p cs = (front, some rest) := by
  induction cs with
  | nil => exact .inl ⟨rfl, List.forall_mem_nil _⟩
  | cons d ds ih =>
    cases hd : p d with
    | true =>
      have hnone := List.forall_mem_nil (p · = false)
      exact .inr ⟨[], d, ds, rfl, hnone, hd, first_append ds hnone hd⟩
    | false =>
      rcases ih with ⟨-, hfree⟩ | ⟨front, c, rest, rfl, hfront, hc, -⟩
      · have hall : ∀ e ∈ d :: ds, p e = false := List.forall_mem_cons.mpr ⟨hd, hfree⟩
        refine .inl ⟨?_, hall⟩
        unfold first
        rw [List.dropWhile_eq_nil_iff.mpr fun e he => by rw [hall e he]; rfl]
      · have hall : ∀ e ∈ d :: front, p e = false := List.forall_mem_cons.mpr ⟨hd, hfront⟩
        exact .inr ⟨d :: front, c, rest, rfl, hall, hc, first_append rest hall hc⟩

/-- In front of a text the last character of a class is that of the text, if it has any. -/
theorem last_append (cs rest : List Char) (hc : p c = true) : last p (cs ++ c :: rest) =
    (some (cs ++ (last p rest).1.elim [] (c :: ·)), (last p rest).2) := by
  have hreverse : (cs ++ c :: rest).reverse = rest.reverse ++ c :: cs.reverse := by simp
  unfold last
  rw [hreverse]
  -- read from its end, the text is cut in the rest if anything there is of the class
  rcases first_cases p rest.reverse with ⟨hfirst, hfree⟩ | ⟨after, d, before, heq, hafter, hd, hfirst⟩
  · rw [hfirst, first_append _ hfree hc]
    simp
  · rw [hfirst, heq, List.append_assoc, List.cons_append, first_append _ hafter hd]
    simp

theorem contains_eq_true {part cs : List Char} : contains part cs = true ↔ part <:+: cs := by
  induction cs with
  | nil => rw [contains, List.isEmpty_iff, List.infix_nil]
  | cons c cs ih =>
    rw [contains, Bool.or_eq_true, List.isPrefixOf_iff_prefix, ih, List.infix_cons_iff]

end Split

namespace Url

/-! ## The parts behind a login -/

variable (scheme : String) (cs : List Char)

/-- What stands in front of the path: login, host and port. -/
def authority : List Char :=
  cs.takeWhile (!endsAuthority (scheme ∈ webSchemes) ·)

/-- What follows login, host and port. -/
def behindAuthority : List Char :=
  cs.dropWhile (!endsAuthority (scheme ∈ webSchemes) ·)

/-- What a login goes on with that begins in front of a text: up to the last `@` in front of the path. -/
def loginRest : List Char :=
  (Split.last (· = '@') (authority scheme cs)).1.elim [] ('@' :: ·)

/-- The parts of a URL but for the login, from the text of host and port and from what follows it. -/
def ofHost (hostPort rest : List Char) : Except UrlError Url := do
  let web := scheme ∈ webSchemes
  let (hostText, portText) := splitHost false hostPort
  let host ← hostOf web hostText
  if hostText.isEmpty then throw .emptyHost
  let (port, slanted) ← splitPort portText
  let (path, query) := splitPath web (slanted ++ rest)
  return { scheme, host, port, path, query }

/-- The parts of a URL from its login, the text of host and port, and what follows it. -/
def ofLogin (login : Option (List Char)) (hostPort rest : List Char) : Except UrlError Url := do
  let web := scheme ∈ webSchemes
  let (user, password) := Split.first (· = ':') (login.getD [])
  let (hostText, portText) := splitHost false hostPort
  let host ← hostOf web hostText
  let expected := web ∨ portText ≠ [] ∨ user ≠ [] ∨ password.getD [] ≠ [] ∨
    login = some [] ∧ rest ≠ []
  if hostText.isEmpty ∧ expected then throw .emptyHost
  let (port, slanted) ← splitPort portText
  let (path, query) := splitPath web (slanted ++ rest)
  return { scheme, user, password := password.getD [], host, port, path, query }

/-- The parts of a URL behind its login. -/
def behindLogin : Except UrlError Url :=
  ofHost scheme (Split.last (· = '@') (authority scheme cs)).2 (behindAuthority scheme cs)

theorem ofAuthority_eq : ofAuthority scheme cs =
    ofLogin scheme (Split.last (· = '@') (authority scheme cs)).1
      (Split.last (· = '@') (authority scheme cs)).2 (behindAuthority scheme cs) :=
  rfl

theorem endsAuthority_eq_false {c : Char} (h : endsAuthority true c = false) (web : Bool) :
    endsAuthority web c = false := by
  cases web with
  | true => exact h
  | false => simp_all [endsAuthority]

theorem ofLogin_password {password : List Char} (hne : password ≠ []) (hostPort rest : List Char) :
    ofLogin scheme (some (':' :: password)) hostPort rest =
      (ofHost scheme hostPort rest).map fun u => { u with password } := by
  have hcolon : Split.first (· = ':') (':' :: password) = ([], some password) :=
    Split.first_append password (List.forall_mem_nil _) (decide_eq_true rfl)
  unfold ofLogin ofHost
  -- with a password a host is expected whatever the scheme
  simp only [Option.getD_some, hcolon, ne_eq, hne, not_false_eq_true, true_or, or_true, and_true]
  cases hostOf (scheme ∈ webSchemes) (splitHost false hostPort).1 with
  | error e => rfl
  | ok host =>
    cases (splitHost false hostPort).1.isEmpty with
    | true => rfl
    | false =>
      cases splitPort (splitHost false hostPort).2 with
      | error e => rfl
      | ok p => rfl

/-- With any login the parts are those behind it, if there are any. -/
theorem ofLogin_of_ofHost {hostPort rest : List Char} {u : Url}
    (h : ofHost scheme hostPort rest = .ok u) (login : Option (List Char)) :
    ∃ user password, ofLogin scheme login hostPort rest = .ok { u with user, password } := by
  refine ⟨(Split.first (· = ':') (login.getD [])).1,
    (Split.first (· = ':') (login.getD [])).2.getD [], ?_⟩
  -- the host is not empty here, so it does not matter whether one was expected
  revert h
  simp only [ofHost, ofLogin]
  cases hostOf (scheme ∈ webSchemes) (splitHost false hostPort).1 with
  | error e => exact nofun
  | ok host =>
    cases (splitHost false hostPort).1.isEmpty with
    | true => exact nofun
    | false =>
      cases splitPort (splitHost false hostPort).2 with
      | error e => exact nofun
      | ok p =>
        rintro ⟨⟩
        rfl

variable {scheme cs}

/-- Nothing of a text without `@` is read as a login. -/
theorem loginRest_eq_nil (h : '@' ∉ cs) : loginRest scheme cs = [] := by
  have hfree : ∀ c ∈ (authority scheme cs).reverse, ¬ c = '@' := by
    rintro c hc rfl
    exact h ((List.takeWhile_sublist _).subset (List.mem_reverse.mp hc))
  unfold loginRest Split.last
  rcases Split.first_cases (· = '@') (authority scheme cs).reverse with
    ⟨hfirst, -⟩ | ⟨front, c, rest, heq, -, hc, -⟩
  · rw [hfirst]
    rfl
  · refine absurd (of_decide_eq_true hc) (hfree c ?_)
    rw [heq]
    exact List.mem_append_right front List.mem_cons_self

/-- A password in front of a text leaves the parts behind the login as they are. -/
theorem ofAuthority_login {password : List Char} (hne : password ≠ [])
    (hfree : ∀ c ∈ password, endsAuthority true c = false) :
    ofAuthority scheme (':' :: (password ++ '@' :: cs)) =
      (behindLogin scheme cs).map fun u => { u with password := password ++ loginRest scheme cs } := by
  have hinside : ∀ c ∈ ':' :: (password ++ ['@']),
      (!endsAuthority (scheme ∈ webSchemes) c) = true := by
    intro c hc
    have hfront : endsAuthority true c = false := by
      rcases List.mem_cons.mp hc with rfl | hc
      · decide
      · rcases List.mem_append.mp hc with hc | hc
        · exact hfree c hc
        · rw [List.mem_singleton.mp hc]
          decide
    rw [endsAuthority_eq_false hfront]
    rfl
  have hassoc : ':' :: (password ++ '@' :: cs) = (':' :: (password ++ ['@'])) ++ cs := by simp
  have hauthority : authority scheme (':' :: (password ++ '@' :: cs)) =
      (':' :: password) ++ '@' :: authority scheme cs := by
    rw [hassoc, authority, List.takeWhile_append_of_pos hinside]
    simp [authority]
  have hbehind : behindAuthority scheme (':' :: (password ++ '@' :: cs)) =
      behindAuthority scheme cs := by
    rw [hassoc, behindAuthority, List.dropWhile_append_of_pos hinside]
    rfl
  have hlogin := Split.last_append (p := (· = '@')) (':' :: password) (authority scheme cs)
    (decide_eq_true rfl)
  have hlong : password ++ loginRest scheme cs ≠ [] := by simp [hne]
  rw [ofAuthority_eq, hauthority, hbehind, hlogin]
  exact ofLogin_password scheme hlong _ _

end Url

end TableFeed
