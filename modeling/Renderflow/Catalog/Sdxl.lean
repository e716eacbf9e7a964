import Renderflow.Catalog.ModeSpec

/-!
# The modes of SDXL
-/

namespace Renderflow.Catalog.Sdxl

def variation : ModeSpec :=
  { mode := .weakVariation
    template := "sdxl/variation"
    sampler := "sdxl_var_ksampler"
    save := "sdxl_var_save_image"
    modelLoader := "sdxl_1"
    positivePrompt := "sdxl_var_pos_prompt"
    negativePrompt := some "sdxl_var_neg_prompt"
    lora := some "sdxl_lora"
    loadImage := some "sdxl_var_load"
    encode := some "sdxl_var_vae_encode"
    nodes :=
     ["sdxl_1", "sdxl_lora", "sdxl_var_load", "sdxl_var_resize", "sdxl_var_vae_encode",
      "sdxl_var_clip_skip", "sdxl_var_pos_prompt", "sdxl_var_neg_prompt",
      "sdxl_var_ksampler", "sdxl_var_vae_decode", "sdxl_var_save_image"] }

def txt2img : ModeSpec :=
  { mode := .txt2img
    template := "sdxl/txt2img"
    sampler := "sdxl_5"
    latent := some "sdxl_8"
    save := "sdxl_7"
    modelLoader := "sdxl_1"
    positivePrompt := "sdxl_3"
    negativePrompt := some "sdxl_4"
    lora := some "sdxl_lora"
    nodes :=
     ["sdxl_1", "sdxl_lora", "sdxl_2", "sdxl_3", "sdxl_4", "sdxl_5", "sdxl_6", "sdxl_7",
      "sdxl_8", "sdxl_preview"] }

def img2img : ModeSpec :=
  { mode := .img2img
    template := "sdxl/img2img"
    sampler := "sdxl_5"
    save := "sdxl_7"
    modelLoader := "sdxl_1"
    positivePrompt := "sdxl_3"
    negativePrompt := some "sdxl_4"
    lora := some "sdxl_lora"
    loadImage := some "sdxl_i2i_load"
    encode := some "sdxl_i2i_vae_encode"
    nodes :=
     ["sdxl_1", "sdxl_lora", "sdxl_2", "sdxl_3", "sdxl_4", "sdxl_5", "sdxl_6", "sdxl_7",
      "sdxl_i2i_load", "sdxl_i2i_resize", "sdxl_i2i_vae_encode", "sdxl_i2i_preview"] }

def strongVariation : ModeSpec :=
  { variation with
    mode := .strongVariation }

def upscale : ModeSpec :=
  { mode := .upscale
    template := "sdxl/upscale"
    sampler := "sdxl_up_ultimate"
    latent := some "sdxl_up_helper_latent"
    save := "sdxl_up_save"
    modelLoader := "sdxl_1"
    positivePrompt := "sdxl_upscale_pos_prompt"
    negativePrompt := some "sdxl_upscale_neg_prompt"
    lora := some "sdxl_lora"
    loadImage := some "sdxl_up_load"
    upscaleLoader := some "sdxl_up_model_loader"
    nodes :=
     ["sdxl_1", "sdxl_lora", "sdxl_upscale_clip_skip", "sdxl_upscale_pos_prompt",
      "sdxl_upscale_neg_prompt", "sdxl_up_load", "sdxl_up_model_loader",
      "sdxl_up_ultimate", "sdxl_up_helper_latent", "sdxl_up_save"] }

/-- The modes of the family, in the order in which they are listed. -/
def modes : List ModeSpec := [txt2img, img2img, variation, strongVariation, upscale]

end Renderflow.Catalog.Sdxl
