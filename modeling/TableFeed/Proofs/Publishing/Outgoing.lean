import TableFeed.Proofs.Publishing.FanOut
import TableFeed.Publishing.LogPublisher
import TableFeed.Service.Adapter

/-!
# What publishing a batch sends

A batch goes to the publisher message by message. The publisher may answer each message as it likes, and
its answer may depend on all messages before. `Publisher.calls` calls it on messages whatever it answers,
so that its answers tell where a failure is.

* **`publishMessages_cut`** — the crux: messages are published one after the other up to the first
  that is refused.
* **`published_to_refusal`** — so is every batch.
-/

namespace TableFeed

variable {π : Type} [Publisher π]

namespace Publisher

/-- Calls a publisher on messages one after the other, whatever it answers: the publisher afterwards, the
log lines, and the answers, none for a message that is accepted. -/
def calls : List (String × Message) → π → π × List LogLine × List (Option Error)
  | [], p => (p, [], [])
  | (topic, m) :: rest, p =>
    let (p, lines, answer) := publish p topic m
    let (p, more, answers) := calls rest p
    (p, lines ++ more, answer :: answers)

theorem calls_cons {p p' : π} {m : String × Message} {lines : List LogLine} {answer : Option Error}
    (h : publish p m.1 m.2 = (p', lines, answer)) (rest : List (String × Message)) :
    calls (m :: rest) p =
      ((calls rest p').1, lines ++ (calls rest p').2.1, answer :: (calls rest p').2.2) := by
  rw [calls, h]

end Publisher

open Publisher (calls)

namespace Adapter

/-- An adapter after its publisher was called on messages. -/
def afterCalls (a : Adapter π) (ms : List (String × Message)) : Adapter π :=
  { a with
    publisher := (calls ms a.publisher).1
    log := a.log ++ (calls ms a.publisher).2.1 }

theorem publishMessage_eq {a : Adapter π} {p' : π} {m : String × Message} {lines : List LogLine}
    {answer : Option Error} (h : Publisher.publish a.publisher m.1 m.2 = (p', lines, answer)) :
    a.publishMessage m.1 m.2 = ({ a with publisher := p', log := a.log ++ lines }, answer) := by
  rw [publishMessage, h]

/-- The calls on the messages behind the first come after the call on that. -/
theorem afterCalls_cons {a : Adapter π} {p' : π} {m : String × Message} {lines : List LogLine}
    {answer : Option Error} (h : Publisher.publish a.publisher m.1 m.2 = (p', lines, answer))
    (rest : List (String × Message)) :
    a.afterCalls (m :: rest) =
      ({ a with publisher := p', log := a.log ++ lines } : Adapter π).afterCalls rest := by
  simp only [afterCalls, Publisher.calls_cons h, List.append_assoc]

/-- Messages are published up to the first that is refused, and all of them if none is. -/
theorem publishMessages_cut (ms : List (String × Message)) (a : Adapter π) :
    ∃ called left, ms = called ++ left ∧ (publishMessages ms a).1 = a.afterCalls called ∧
      (left = [] ∧ (∀ answer ∈ (calls called a.publisher).2.2, answer = none) ∧
          (publishMessages ms a).2 = none ∨
        ∃ accepted e, (calls called a.publisher).2.2 = accepted ++ [some e] ∧
          (∀ answer ∈ accepted, answer = none) ∧ (publishMessages ms a).2 = some e) := by
  induction ms generalizing a with
  | nil =>
    refine ⟨[], [], rfl, ?_, .inl ⟨rfl, List.forall_mem_nil _, rfl⟩⟩
    simp only [publishMessages, afterCalls, calls, List.append_nil]
  | cons m rest ih =>
    rcases hcall : Publisher.publish a.publisher m.1 m.2 with ⟨p', lines, _ | e⟩
    · -- the first message is accepted, and what becomes of the others is known by induction
      have hpublish : publishMessages (m :: rest) a =
          publishMessages rest { a with publisher := p', log := a.log ++ lines } := by
        rw [publishMessages, publishMessage_eq hcall]
      obtain ⟨called, left, rfl, hdone, hend⟩ := ih { a with publisher := p', log := a.log ++ lines }
      refine ⟨m :: called, left, rfl, ?_, ?_⟩
      · rw [hpublish, hdone, afterCalls_cons hcall]
      · rw [hpublish, Publisher.calls_cons hcall]
        rcases hend with ⟨hleft, hnone, hok⟩ | ⟨accepted, e, hanswers, hnone, hfailed⟩
        · exact .inl ⟨hleft, List.forall_mem_cons.mpr ⟨rfl, hnone⟩, hok⟩
        · exact .inr ⟨none :: accepted, e, congrArg (none :: ·) hanswers,
            List.forall_mem_cons.mpr ⟨rfl, hnone⟩, hfailed⟩
    · -- the first message is refused, and nothing behind it is published
      have hpublish : publishMessages (m :: rest) a =
          ({ a with publisher := p', log := a.log ++ lines }, some e) := by
        rw [publishMessages, publishMessage_eq hcall]
      refine ⟨[m], rest, rfl, ?_, .inr ⟨[], e, ?_, List.forall_mem_nil _, ?_⟩⟩
      · rw [hpublish, afterCalls_cons hcall]
        simp only [afterCalls, calls, List.append_nil]
      · rw [Publisher.calls_cons hcall]
        rfl
      · rw [hpublish]

/-- **A batch is sent up to the first refusal.** Publishing a batch calls the publisher on messages of
the fan-out of its rows, in their order, and does nothing else: it calls it on all of them if each is
accepted, and then it succeeds; else up to and with the first that is refused, whose failure it
returns. -/
theorem published_to_refusal (b : Batch) (a : Adapter π) :
    ∃ called left, fanOut b.thing b.channel b.rows = called ++ left ∧
      (service.publish b a).1 = { a with
        publisher := (calls called a.publisher).1
        log := a.log ++ (calls called a.publisher).2.1 } ∧
      (left = [] ∧ (∀ answer ∈ (calls called a.publisher).2.2, answer = none) ∧
          (service.publish b a).2 = none ∨
        ∃ accepted e, (calls called a.publisher).2.2 = accepted ++ [some e] ∧
          (∀ answer ∈ accepted, answer = none) ∧ (service.publish b a).2 = some e) := by
  have hpublish : service.publish b a = publishMessages (fanOut b.thing b.channel b.rows) a := by
    rw [← b.messages_eq_fanOut]
    rfl
  rw [hpublish]
  exact publishMessages_cut _ a

/-- A batch of two rows, the second without identity. -/
def sparseBatch : Batch where
  kind := "csv"
  thing := "t"
  channel := "c"
  rows :=
    [⟨[("mfx_id", some (.int 7)), ("a", some (.text " 2.5 ")), ("b", some (.text "  ")), ("d", none),
        ("e", some (.text "on"))]⟩,
      ⟨[("a", some (.bool true))]⟩]

/-- What is to be sent of it. -/
def sparseMessages : List (String × Message) :=
  [("channels.c.a", ⟨"t", "dbreader", "c", "a", "[\x7b\"n\":\"7\",\"v\":2.5\x7d]"⟩),
    ("channels.c.e", ⟨"t", "dbreader", "c", "e", "[\x7b\"n\":\"7\",\"vs\":\"on\"\x7d]"⟩),
    ("channels.c.a", ⟨"t", "dbreader", "c", "a", "[\x7b\"n\":\"mfx_id\",\"vb\":true\x7d]"⟩)]

/-- Its publisher accepts one message and no more. -/
def sparseAdapter : Adapter LogPublisher :=
  { publisher := LogPublisher.failingAfter 1 }

/-- Of three messages the second is refused, and the third is not tried. -/
theorem published_to_second :
    fanOut "t" "c" sparseBatch.rows = sparseMessages ∧
      (service.publish sparseBatch sparseAdapter).1 =
        sparseAdapter.afterCalls (sparseMessages.take 2) ∧
      (service.publish sparseBatch sparseAdapter).1.publisher.published = sparseMessages.take 1 ∧
      (service.publish sparseBatch sparseAdapter).2.map Error.message =
        some "Publish to 'channels.c.e' failed: log publisher rejected message" := by
  have hmessages : fanOut "t" "c" sparseBatch.rows = sparseMessages := by decide +kernel
  have hrefused : (service.publish sparseBatch sparseAdapter).2.isSome = true := by decide +kernel
  refine ⟨hmessages, ?_, by decide +kernel, by decide +kernel⟩
  obtain ⟨called, left, hsplit, hdone, ⟨-, -, hok⟩ | ⟨accepted, e, hanswers, hnone, -⟩⟩ :=
    published_to_refusal sparseBatch sparseAdapter
  · rw [hok] at hrefused
    cases hrefused
  · replace hsplit : sparseMessages = called ++ left := hmessages.symm.trans hsplit
    have htake : sparseMessages.take called.length = called := by rw [hsplit, List.take_left]
    have hlength : called.length ≤ 3 := by
      show _ ≤ sparseMessages.length
      rw [hsplit, List.length_append]
      exact Nat.le_add_right _ _
    -- no other number of calls ends with the first refusal
    have honly : ∀ k ≤ 3,
        let refused := (calls (sparseMessages.take k) sparseAdapter.publisher).2.2.map Option.isSome
        refused.dropLast.all not ∧ refused.getLast? = some true → k = 2 := by decide +kernel
    have htwo : called.length = 2 := by
      refine honly called.length hlength ?_
      rw [htake, hanswers]
      simp only [List.map_append, List.map_cons, List.map_nil, List.dropLast_concat,
        List.getLast?_concat]
      exact ⟨List.all_map .. ▸ List.all_eq_true.mpr fun answer h => by simp [hnone answer h], rfl⟩
    rw [← htwo, htake]
    exact hdone

end Adapter

end TableFeed
