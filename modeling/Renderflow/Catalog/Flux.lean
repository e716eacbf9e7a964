import Renderflow.Catalog.ModeSpec

/-!
# The modes of Flux
-/

namespace Renderflow.Catalog.Flux

def variation : ModeSpec :=
  { mode := .weakVariation
    template := "flux/weak_variation"
    sampler := "7"
    save := "34"
    modelLoader := "1"
    positivePrompt := "8"
    guidance := some "5"
    clipLoader := some "2"
    vaeLoader := some "3"
    lora := some "35"
    loadImage := some "33"
    encode := some "22"
    nodes := ["1", "2", "3", "5", "7", "8", "11", "22", "33", "34", "35", "36"] }

def txt2img : ModeSpec :=
  { mode := .txt2img
    template := "flux/txt2img"
    sampler := "8"
    latent := some "99"
    save := "7"
    modelLoader := "1"
    positivePrompt := "4"
    guidance := some "5"
    clipLoader := some "2"
    vaeLoader := some "3"
    lora := some "10"
    nodes := ["1", "2", "3", "4", "5", "6", "7", "8", "9", "10", "99"] }

def img2img : ModeSpec :=
  { mode := .img2img
    template := "flux/img2img"
    sampler := "8"
    save := "7"
    modelLoader := "1"
    positivePrompt := "4"
    guidance := some "5"
    clipLoader := some "2"
    vaeLoader := some "3"
    lora := some "17"
    loadImage := some "15"
    encode := some "14"
    nodes := ["1", "2", "3", "4", "5", "6", "7", "8", "9", "14", "15", "16", "17"] }

def strongVariation : ModeSpec :=
  { variation with
    mode := .strongVariation
    template := "flux/strong_variation" }

def upscale : ModeSpec :=
  { mode := .upscale
    template := "flux/upscale"
    sampler := "104"
    latent := some "98"
    save := "58"
    modelLoader := "8:0"
    positivePrompt := "1"
    clipLoader := some "8:1"
    vaeLoader := some "8:2"
    lora := some "116"
    loadImage := some "115"
    upscaleLoader := some "103"
    nodes := ["1", "58", "98", "103", "104", "115", "116", "8:0", "8:1", "8:2"] }

def edit : ModeSpec :=
  { mode := .edit
    template := "flux/kontext"
    sampler := "ksampler"
    latent := some "latent_optimizer"
    save := "save_image"
    modelLoader := "kontext_model_loader"
    positivePrompt := "instruction_encoder"
    guidance := some "flux_guidance"
    clipLoader := some "clip_loader"
    vaeLoader := some "vae_loader"
    loadImage := some "load_image_1"
    encode := some "vae_encoder"
    nodes :=
     ["kontext_model_loader", "vae_loader", "clip_loader", "instruction_encoder",
      "load_image_1", "image_resizer", "vae_encoder", "latent_optimizer",
      "reference_latent_node", "flux_guidance", "ksampler", "vae_decoder", "save_image"] }

/-- The modes of the family, in the order in which they are listed. -/
def modes : List ModeSpec := [txt2img, img2img, variation, strongVariation, upscale, edit]

end Renderflow.Catalog.Flux
