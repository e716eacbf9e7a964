import Renderflow.Catalog.ModeSpec

/-!
# The modes of Qwen
-/

namespace Renderflow.Catalog.Qwen

def variation : ModeSpec :=
  { mode := .weakVariation
    template := "qwen/variation"
    sampler := "qwen_var_ksampler"
    save := "qwen_var_save_image"
    modelLoader := "qwen_1"
    positivePrompt := "qwen_var_pos_prompt"
    negativePrompt := some "qwen_var_neg_prompt"
    lora := some "qwen_lora"
    shift := some "qwen_var_sampling"
    loadImage := some "qwen_var_load"
    encode := some "qwen_var_vae_encode"
    nodes :=
     ["qwen_1", "qwen_lora", "qwen_var_sampling", "qwen_var_load", "qwen_var_resize",
      "qwen_var_vae_encode", "qwen_var_clip_skip", "qwen_var_pos_prompt",
      "qwen_var_neg_prompt", "qwen_var_ksampler", "qwen_var_vae_decode",
      "qwen_var_save_image"] }

def img2img : ModeSpec :=
  { mode := .img2img
    template := "qwen/img2img"
    sampler := "qwen_5"
    save := "qwen_7"
    modelLoader := "qwen_1"
    positivePrompt := "qwen_3"
    negativePrompt := some "qwen_4"
    lora := some "qwen_lora"
    shift := some "qwen_sampling"
    loadImage := some "qwen_i2i_load"
    encode := some "qwen_i2i_vae_encode"
    nodes :=
     ["qwen_1", "qwen_lora", "qwen_sampling", "qwen_2", "qwen_3", "qwen_4", "qwen_5",
      "qwen_6", "qwen_7", "qwen_i2i_load", "qwen_i2i_resize", "qwen_i2i_vae_encode",
      "qwen_i2i_preview"] }

def txt2img : ModeSpec :=
  { mode := .txt2img
    template := "qwen/txt2img"
    sampler := "qwen_5"
    latent := some "qwen_8"
    save := "qwen_7"
    modelLoader := "qwen_1"
    positivePrompt := "qwen_3"
    negativePrompt := some "qwen_4"
    lora := some "qwen_lora"
    shift := some "qwen_sampling"
    nodes :=
     ["qwen_1", "qwen_lora", "qwen_sampling", "qwen_2", "qwen_3", "qwen_4", "qwen_5",
      "qwen_6", "qwen_7", "qwen_8", "qwen_preview"] }

def strongVariation : ModeSpec :=
  { variation with
    mode := .strongVariation }

def upscale : ModeSpec :=
  { mode := .upscale
    template := "qwen/upscale"
    sampler := "qwen_up_ultimate"
    latent := some "qwen_up_helper_latent"
    save := "qwen_up_save"
    modelLoader := "qwen_1"
    positivePrompt := "qwen_upscale_pos_prompt"
    negativePrompt := some "qwen_upscale_neg_prompt"
    lora := some "qwen_lora"
    shift := some "qwen_up_sampling"
    loadImage := some "qwen_up_load"
    upscaleLoader := some "qwen_up_model_loader"
    nodes :=
     ["qwen_1", "qwen_lora", "qwen_up_sampling", "qwen_upscale_clip_skip",
      "qwen_upscale_pos_prompt", "qwen_upscale_neg_prompt", "qwen_up_load",
      "qwen_up_model_loader", "qwen_up_ultimate", "qwen_up_helper_latent",
      "qwen_up_save"] }

def edit : ModeSpec :=
  { img2img with
    mode := .edit
    template := "qwen/edit"
    nodes :=
     ["qwen_1", "qwen_lora", "qwen_sampling", "qwen_2", "qwen_3", "qwen_4", "qwen_5",
      "qwen_6", "qwen_7", "qwen_i2i_load", "qwen_i2i_resize", "qwen_i2i_vae_encode"] }

/-- The modes of the family, in the order in which they are listed. -/
def modes : List ModeSpec := [txt2img, img2img, variation, strongVariation, upscale, edit]

end Renderflow.Catalog.Qwen
