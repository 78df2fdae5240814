import SyntheticMarket.Proofs.Session.Lockstep

/-! Histories in parts. A history may break off before any bucket and be resumed there, with the
price and the noise that its first part ended with: its buckets join, and no candle tells that it
was ever interrupted. -/

namespace SyntheticMarket

namespace Span

variable {span : Span}

/-- A moment some buckets earlier lies in the bucket that many earlier. -/
theorem align_sub_mul (moment count : Int) :
    span.align (moment - count * span.ms) = span.align moment - count * span.ms := by
  have same : (moment - count * span.ms).fmod span.ms = moment.fmod span.ms :=
    Int.sub_mul_fmod_self_right moment count span.ms
  rw [align, align, same]
  omega

end Span

namespace Walk

variable {α : Type} [PriceScale α] {span : Span} {past : List (Candle α)} {whole part : Walk α}

theorem extend_add (volatility : α) (span : Span) (first more : Nat) (walk : Walk α) :
    extend volatility span (first + more) walk =
      extend volatility span more (extend volatility span first walk) := by
  induction first generalizing walk with
  | zero => rw [Nat.zero_add, extend]
  | succ first ih => rw [Nat.succ_add, extend, extend, ih]

/-- A part of a walk that goes on where some candles ended: it stands at the same place as the whole
walk, with only those candles missing. -/
structure Resumes (past : List (Candle α)) (whole part : Walk α) : Prop where
  price : whole.price = part.price
  bucketStart : whole.bucketStart = part.bucketStart
  noise : whole.noise = part.noise
  candles : whole.tape.toList = past ++ part.tape.toList

theorem Resumes.step (resumes : Resumes past whole part) (volatility : α) (span : Span) :
    Resumes past (Walk.step volatility span whole) (Walk.step volatility span part) := by
  obtain ⟨tape, price, start, noise⟩ := whole
  obtain ⟨tape', price', start', noise'⟩ := part
  obtain ⟨rfl, rfl, rfl, candles⟩ := resumes
  constructor
  · rfl
  · rfl
  · rfl
  · rw [toList_step, toList_step, candles, List.append_assoc]

theorem Resumes.extend (resumes : Resumes past whole part) (volatility : α) (span : Span)
    (count : Nat) :
    Resumes past (Walk.extend volatility span count whole)
      (Walk.extend volatility span count part) := by
  induction count generalizing whole part with
  | zero => exact resumes
  | succ count ih => exact ih (resumes.step volatility span)

/-- The second part of a history starts in the bucket after its first part, whose last price it is
given; it draws no base price of its own. -/
theorem history_resumes (noise : Noise) (now : Int) (span : Span) (first more : Nat)
    (volatility : α) (startPrice : Option α) :
    let earlier := history noise (now - more * span.ms) span first volatility startPrice
    Resumes earlier.tape.toList (history noise now span (first + more) volatility startPrice)
      (history earlier.noise now span more volatility (some earlier.price)) := by
  intro earlier
  have begins : span.align now - (((first + more : Nat) : Int) - 1) * span.ms =
      span.align (now - more * span.ms) - ((first : Int) - 1) * span.ms := by
    rw [Span.align_sub_mul, Int.natCast_add, Int.sub_mul, Int.sub_mul, Int.add_mul]
    omega
  have goesOn : earlier.bucketStart = span.align now - ((more : Int) - 1) * span.ms := by
    rw [bucketStart_history, Span.align_sub_mul, Int.sub_mul]
    omega
  have joined : history noise now span (first + more) volatility startPrice =
      Walk.extend volatility span more earlier := by
    simp only [earlier, history, begins, extend_add]
  rw [joined]
  apply Resumes.extend
  exact ⟨rfl, goesOn, rfl, (List.append_nil _).symm⟩

theorem history?_eq (noise : Noise) (now : Int) (span : Span) (count : Nat) (volatility : α)
    (startPrice : Option α) :
    history? noise now span.ms count volatility startPrice =
      .ok (history noise now span count volatility startPrice) := by
  rw [history?, if_neg (Int.not_lt.mpr (Int.natCast_nonneg count)), Span.ofBucketMs_ms]
  rfl

/-- A history of `first + more` candles is one of `first` that ends `more` buckets earlier, and then
one of `more` that starts from the last price of the first one, with the noise that the first one
left. So whatever is generated from a source, and for whatever moment and width, begins with the
figures of what is generated from it for fewer candles. -/
theorem history_split (noise : Noise) (now : Int) (span : Span) (first more : Nat) (volatility : α)
    (startPrice : Option α) :
    ∃ whole earlier later : Walk α,
      history? noise now span.ms (first + more) volatility startPrice = .ok whole ∧
        history? noise (now - more * span.ms) span.ms first volatility startPrice = .ok earlier ∧
        history? earlier.noise now span.ms more volatility (some earlier.price) = .ok later ∧
        whole.tape.toList = earlier.tape.toList ++ later.tape.toList ∧
        whole.price = later.price ∧ whole.noise = later.noise ∧
        ∀ (moment : Int) (width : Span), ∃ shorter : Walk α,
          history? noise moment width.ms first volatility startPrice = .ok shorter ∧
            shorter.tape.toList.map Candle.figures <+: whole.tape.toList.map Candle.figures := by
  have resumes := history_resumes noise now span first more volatility startPrice
  refine ⟨_, _, _, history?_eq noise now span (first + more) volatility startPrice,
    history?_eq noise (now - more * span.ms) span first volatility startPrice,
    history?_eq _ now span more volatility _, resumes.candles, resumes.price, resumes.noise, ?_⟩
  intro moment width
  have level := history_level noise moment (now - more * span.ms) width span first volatility
    startPrice
  refine ⟨_, history?_eq noise moment width first volatility startPrice, ?_⟩
  rw [resumes.candles, List.map_append, level.figures]
  exact List.prefix_append _ _

end Walk

end SyntheticMarket
