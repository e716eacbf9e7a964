import Renderflow.Catalog.ModeSpec

/-!
# The modes of WAN
-/

namespace Renderflow.Catalog.Wan

def txt2img : ModeSpec :=
  { mode := .txt2img
    template := "wan/txt2img"
    sampler := "wan_ksampler_low"
    initialSampler := some "wan_ksampler_high"
    latent := some "wan_latent"
    save := "wan_save"
    modelLoader := "wan_unet_high"
    secondaryLoader := some "wan_unet_low"
    positivePrompt := "wan_pos_prompt"
    negativePrompt := some "wan_neg_prompt"
    clipLoader := some "wan_clip"
    vaeLoader := some "wan_vae"
    lora := some "wan_lora"
    shift := some "wan_shift_high"
    nodes :=
     ["wan_unet_high", "wan_unet_low", "wan_clip", "wan_vae", "wan_lora",
      "wan_pos_prompt", "wan_neg_prompt", "wan_shift_high", "wan_shift_low",
      "wan_latent", "wan_ksampler_high", "wan_ksampler_low", "wan_decode", "wan_save"] }

def variation : ModeSpec :=
  { txt2img with
    mode := .weakVariation
    template := "wan/variation"
    latent := none
    loadImage := some "wan_var_load"
    encode := some "wan_var_vae_encode"
    nodes :=
     ["wan_unet_high", "wan_unet_low", "wan_clip", "wan_vae", "wan_lora",
      "wan_pos_prompt", "wan_neg_prompt", "wan_shift_high", "wan_shift_low",
      "wan_var_load", "wan_var_resize", "wan_var_vae_encode", "wan_ksampler_high",
      "wan_ksampler_low", "wan_decode", "wan_save"] }

def img2img : ModeSpec :=
  { txt2img with
    mode := .img2img
    template := "wan/img2img"
    latent := none
    loadImage := some "wan_i2i_load"
    encode := some "wan_i2i_vae_encode"
    nodes :=
     ["wan_unet_high", "wan_unet_low", "wan_clip", "wan_vae", "wan_lora",
      "wan_pos_prompt", "wan_neg_prompt", "wan_shift_high", "wan_shift_low",
      "wan_i2i_load", "wan_i2i_resize", "wan_i2i_vae_encode", "wan_ksampler_high",
      "wan_ksampler_low", "wan_decode", "wan_save"] }

def strongVariation : ModeSpec :=
  { variation with
    mode := .strongVariation }

def animation : ModeSpec :=
  { txt2img with
    mode := .animation
    template := "wan/animation"
    sampler := "wan_i2v_ksampler_low"
    initialSampler := some "wan_i2v_ksampler"
    latent := some "wan_image_to_video"
    save := "wan_i2v_save"
    lora := none
    loadImage := some "wan_i2v_image"
    nodes :=
     ["wan_unet_high", "wan_unet_low", "wan_clip", "wan_i2v_vision_clip", "wan_vae",
      "wan_i2v_image", "wan_i2v_vision_encode", "wan_pos_prompt", "wan_neg_prompt",
      "wan_image_to_video", "wan_shift_high", "wan_shift_low", "wan_i2v_ksampler",
      "wan_i2v_ksampler_low", "wan_i2v_decode", "wan_i2v_create", "wan_i2v_save"] }

/-- The modes of the family, in the order in which they are listed. -/
def modes : List ModeSpec := [txt2img, img2img, variation, strongVariation, animation]

end Renderflow.Catalog.Wan
